import ContractBuild.Proofs.NormalForms
import ContractBuild.Proofs.Presentation

/-!
# Files that are published under one path

A source file is published under its source path, the normal form of where it is (`Report.sourcePath`). Whether it is one
is asked before its path is normalised, and the answer is the same behind that (`Report.publishedPath?_eq`). Several files
may have one source path. Then their diagnostics are put together, in the order of the files
(`Report.published_eq_collect`).

`Report.publishedOf_published` says what comes of this for any diagnostics that were added one by one.
-/

namespace ContractBuild

namespace Report

variable {dir file : Text} {added : List Diagnostic}

/-- The name of a source file. -/
def isSource (file : Text) : Bool := file.endsWith sourceExtension

/-- The normal form of a path that is taken from a project folder unless it is absolute. -/
def sourcePath (dir file : Text) : Text := Path.normalize (if Path.isAbsolute file then file else Path.join dir file)

theorem sourcePath_eq (dir file : Text) : sourcePath dir file = Path.normalize (Path.join dir file) := by
  rw [sourcePath, Path.ite_join]

theorem isAbsolute_sourcePath (hdir : Path.isAbsolute dir = true) (file : Text) :
    Path.isAbsolute (sourcePath dir file) = true := by
  rw [sourcePath_eq]
  exact Path.isAbsolute_normalize (Path.isAbsolute_join hdir file)

/-- A source path is a root with steps behind it. -/
theorem normal_sourcePath (hdir : Path.isAbsolute dir = true) (file : Text) :
    ∃ root steps, Path.Normal root steps (sourcePath dir file) := by
  rw [sourcePath_eq]
  exact ⟨_, _, Path.normal_normalize (Path.isAbsolute_join hdir file)⟩

theorem slash_not_mem_sourceExtension : Path.slash ∉ sourceExtension := by decide

theorem isSource_join (hdir : Path.isAbsolute dir = true) (file : Text) : isSource (Path.join dir file) = isSource file :=
  Path.endsWith_join slash_not_mem_sourceExtension (Path.ne_nil_of_isAbsolute hdir) file

/-- The source path of a source file is the path of one. -/
theorem isSource_sourcePath (hdir : Path.isAbsolute dir = true) (h : isSource file = true) :
    isSource (sourcePath dir file) = true := by
  rw [sourcePath_eq]
  exact Path.endsWith_normalize_join hdir slash_not_mem_sourceExtension (by decide) h

/-- **Where a file is published**: a source file under its source path, and no other file. -/
theorem publishedPath?_eq (hdir : Path.isAbsolute dir = true) (file : Text) :
    publishedPath? dir file = if isSource file then some (sourcePath dir file) else none := by
  rw [publishedPath?, ← isSource, isSource_join hdir, sourcePath_eq]

theorem publishable_eq (hdir : Path.isAbsolute dir = true) (d : Diagnostic) : publishable dir d = isSource d.file := by
  rw [publishable, publishedPath?_eq hdir]
  cases isSource d.file <;> rfl

/-! ## Groups -/

/-- The groups of source files, each under its source path. -/
def sources (dir : Text) (gs : List (Text × List Diagnostic)) : List (Text × List Diagnostic) :=
  (gs.filter fun g => isSource g.1).map fun g => (sourcePath dir g.1, g.2)

theorem sources_cons (dir : Text) (g : Text × List Diagnostic) (gs : List (Text × List Diagnostic)) :
    sources dir (g :: gs) = if isSource g.1 then (sourcePath dir g.1, g.2) :: sources dir gs else sources dir gs := by
  rw [sources, List.filter_cons]
  split <;> rfl

/-- Publishing files is publishing their source paths. -/
theorem foldl_publishGroup (hdir : Path.isAbsolute dir = true) (gs known : List (Text × List Diagnostic)) :
    gs.foldl (publishGroup dir) known = (sources dir gs).foldl (fun known g => publish g.1 g.2 known) known := by
  induction gs generalizing known with
  | nil => rfl
  | cons g gs ih =>
    rw [List.foldl_cons, ih, publishGroup, publishedPath?_eq hdir, sources_cons]
    cases isSource g.1 <;> rfl

/-- **Files with one source path** are put together. -/
theorem published_eq_collect (hdir : Path.isAbsolute dir = true) (ds : Diagnostics) :
    published dir ds = collect (sources dir ds.groups) := by
  rw [published_eq, foldl_publishGroup hdir, foldl_publish]

theorem map_fst_sources (dir : Text) (ds : Diagnostics) :
    (sources dir ds.groups).map Prod.fst = (ds.files.filter isSource).map (sourcePath dir) := by
  rw [sources, Diagnostics.files, List.filter_map, List.map_map, List.map_map]
  rfl

/-- What comes under a path is what the files have that are published under it. -/
theorem under_sources (dir path : Text) (added : List Diagnostic) :
    under path (sources dir (Diagnostics.ofList added).groups) =
      ((Diagnostics.ofList added).files.filter fun file => isSource file && sourcePath dir file = path).flatMap
        (Diagnostics.ofList added).forFile := by
  rw [Diagnostics.groups_eq_files, sources, under, List.filter_map, List.filter_map, List.filter_map, List.flatMap_map,
    List.flatMap_map, List.filter_filter]
  congr 1
  exact List.filter_congr fun file _ => Bool.and_comm _ _

/-! ## All paths -/

/-- The published diagnostics of a project folder, by path. -/
structure PublishedOf (dir : Text) (ds : Diagnostics) (gs : List (Text × List Diagnostic)) : Prop where
  absolute : ∀ g ∈ gs, Path.isAbsolute g.1 = true
  /-- A path is a root with steps behind it, none of them empty, a dot or a double dot. -/
  normal : ∀ g ∈ gs, ∃ root steps, Path.Normal root steps g.1
  normalized : ∀ g ∈ gs, Path.normalize g.1 = g.1
  source : ∀ g ∈ gs, isSource g.1 = true
  nodup : (gs.map Prod.fst).Nodup
  nonempty : ∀ g ∈ gs, g.2 ≠ []
  /-- All diagnostics of source files are there, each as often as it was, and no others. -/
  complete : (gs.flatMap Prod.snd).Perm (ds.flatten.filter fun d => isSource d.file)
  /-- Each is under the source path of its file. -/
  own : ∀ g ∈ gs, ∀ d ∈ g.2, g.1 = sourcePath dir d.file
  /-- Two source files are published under one path exactly when they have one source path. -/
  merged : ∀ file ∈ ds.files, ∀ file' ∈ ds.files, isSource file = true → isSource file' = true →
    ((∃ g ∈ gs, ds.forFile file ⊆ g.2 ∧ ds.forFile file' ⊆ g.2) ↔ sourcePath dir file = sourcePath dir file')
  /-- The paths come in the order of the first files that have them. -/
  order : gs.map Prod.fst = ((ds.files.filter isSource).map (sourcePath dir)).eraseDups
  /-- Under a path come the diagnostics of one file after those of the other, each in their order. -/
  files_in_order : ∀ g ∈ gs,
    g.2 = (ds.files.filter fun file => isSource file && sourcePath dir file = g.1).flatMap ds.forFile

theorem order_published (hdir : Path.isAbsolute dir = true) (ds : Diagnostics) :
    (published dir ds).map Prod.fst = ((ds.files.filter isSource).map (sourcePath dir)).eraseDups := by
  rw [published_eq_collect hdir, map_fst_collect, map_fst_sources]

/-- What is so for the source paths of source files is so for all paths that are published under. -/
theorem forall_mem_published (hdir : Path.isAbsolute dir = true) (ds : Diagnostics) (P : Text → Prop)
    (h : ∀ file, isSource file = true → P (sourcePath dir file)) : ∀ g ∈ published dir ds, P g.1 := by
  intro g hg
  have hmem : g.1 ∈ (published dir ds).map Prod.fst := List.mem_map_of_mem hg
  rw [order_published hdir, List.mem_eraseDups] at hmem
  obtain ⟨file, hfile, hpath⟩ := List.mem_map.1 hmem
  rw [← hpath]
  exact h file (List.mem_filter.1 hfile).2

/-- A source file has its diagnostics under its source path. -/
theorem exists_mem_published (hdir : Path.isAbsolute dir = true) {ds : Diagnostics} (hfile : file ∈ ds.files)
    (hsource : isSource file = true) : ∃ g ∈ published dir ds, g.1 = sourcePath dir file := by
  refine List.mem_map.1 ?_
  rw [order_published hdir, List.mem_eraseDups]
  exact List.mem_map_of_mem (List.mem_filter.2 ⟨hfile, hsource⟩)

theorem files_in_order_published (hdir : Path.isAbsolute dir = true) {g : Text × List Diagnostic}
    (hg : g ∈ published dir (.ofList added)) :
    g.2 = ((Diagnostics.ofList added).files.filter fun file => isSource file && sourcePath dir file = g.1).flatMap
      (Diagnostics.ofList added).forFile := by
  rw [published_eq_collect hdir] at hg
  obtain ⟨path, -, rfl⟩ := List.mem_map.1 hg
  exact under_sources dir path added

theorem own_published (hdir : Path.isAbsolute dir = true) {g : Text × List Diagnostic}
    (hg : g ∈ published dir (.ofList added)) {d : Diagnostic} (hd : d ∈ g.2) :
    isSource d.file = true ∧ g.1 = sourcePath dir d.file := by
  have hown := (keyed_published (Diagnostics.grouped_ofList added) dir).own g hg d hd
  rw [publishedPath?_eq hdir] at hown
  split at hown
  · rename_i hsource
    exact ⟨hsource, (Option.some.inj hown).symm⟩
  · cases hown

/-- All diagnostics of a source file come under its source path. -/
theorem forFile_subset (hdir : Path.isAbsolute dir = true) {g : Text × List Diagnostic}
    (hg : g ∈ published dir (.ofList added)) (hfile : file ∈ (Diagnostics.ofList added).files)
    (hsource : isSource file = true) (hpath : g.1 = sourcePath dir file) :
    (Diagnostics.ofList added).forFile file ⊆ g.2 := by
  intro d hd
  rw [files_in_order_published hdir hg, List.mem_flatMap]
  refine ⟨file, List.mem_filter.2 ⟨hfile, ?_⟩, hd⟩
  rw [hsource, hpath, decide_eq_true rfl]
  rfl

/-- A file that is there has a diagnostic. -/
theorem exists_mem_forFile (hfile : file ∈ (Diagnostics.ofList added).files) :
    ∃ d ∈ (Diagnostics.ofList added).forFile file, d.file = file := by
  have hne := (Diagnostics.contains_ofList_iff added file).1 (by rwa [Diagnostics.contains, List.elem_iff])
  obtain ⟨d, hd⟩ := List.exists_mem_of_ne_nil _ hne
  refine ⟨d, hd, ?_⟩
  rw [Diagnostics.forFile_ofList] at hd
  exact of_decide_eq_true (List.mem_filter.1 hd).2

/-- **Two source files** are published together exactly when they have one source path. -/
theorem merged_published (hdir : Path.isAbsolute dir = true) {file' : Text}
    (hfile : file ∈ (Diagnostics.ofList added).files) (hfile' : file' ∈ (Diagnostics.ofList added).files)
    (hsource : isSource file = true) (hsource' : isSource file' = true) :
    (∃ g ∈ published dir (.ofList added), (Diagnostics.ofList added).forFile file ⊆ g.2 ∧
        (Diagnostics.ofList added).forFile file' ⊆ g.2) ↔ sourcePath dir file = sourcePath dir file' := by
  constructor
  · rintro ⟨g, hg, hsub, hsub'⟩
    obtain ⟨d, hd, hdfile⟩ := exists_mem_forFile hfile
    obtain ⟨d', hd', hdfile'⟩ := exists_mem_forFile hfile'
    rw [← hdfile, ← hdfile', ← (own_published hdir hg (hsub hd)).2, ← (own_published hdir hg (hsub' hd')).2]
  · intro hpath
    obtain ⟨g, hg, hgpath⟩ := exists_mem_published hdir hfile hsource
    exact ⟨g, hg, forFile_subset hdir hg hfile hsource hgpath,
      forFile_subset hdir hg hfile' hsource' (hgpath.trans hpath)⟩

/-- **Published diagnostics**, of a build whose diagnostics were added one by one, for a project at an absolute path.

They come under absolute paths in normal form, which are paths of source files and all different, and none comes without a
diagnostic. All diagnostics of source files are there, each once and under the source path of its file, and no others are.
So files come together exactly when they have one source path. The paths come in the order of the first files that have
them, and under a path come the diagnostics of its files, file after file, in their order. -/
theorem publishedOf_published (o : Outcome) (added : List Diagnostic) (hadded : o.diagnostics = .ofList added)
    (dir : Text) (hdir : Path.isAbsolute dir = true) : PublishedOf dir o.diagnostics (published dir o.diagnostics) := by
  rw [hadded]
  have hgrouped := Diagnostics.grouped_ofList added
  have hkeyed := keyed_published hgrouped dir
  constructor
  case absolute =>
    exact forall_mem_published hdir _ (Path.isAbsolute · = true) fun file _ => isAbsolute_sourcePath hdir file
  case normal =>
    exact forall_mem_published hdir _ (∃ root steps, Path.Normal root steps ·) fun file _ => normal_sourcePath hdir file
  case normalized =>
    refine forall_mem_published hdir _ (fun path => Path.normalize path = path) fun file _ => ?_
    obtain ⟨root, steps, hnormal⟩ := normal_sourcePath hdir file
    exact hnormal.normalize_eq
  case source =>
    exact forall_mem_published hdir _ (isSource · = true) fun file hsource => isSource_sourcePath hdir hsource
  case nodup => exact hkeyed.nodup
  case nonempty => exact hkeyed.nonempty
  case complete =>
    have hcomplete := flatMap_published_perm hgrouped dir
    rwa [List.filter_congr fun d _ => publishable_eq hdir d] at hcomplete
  case own => exact fun g hg d hd => (own_published hdir hg hd).2
  case merged => exact fun file hfile file' hfile' => merged_published hdir hfile hfile'
  case order => exact order_published hdir _
  case files_in_order => exact fun g hg => files_in_order_published hdir hg

/-- Diagnostics with a message and a file. -/
def noted (message file : Text) : Diagnostic := ⟨file, ⟨⟨0, 0⟩, ⟨0, 1⟩⟩, .warning, message, none, none⟩

/-- Diagnostics under three names of one file, with those of another file and of no source file between them. -/
def spelledDiagnostics : List Diagnostic :=
  [noted "1" "./src//lib.rs", noted "2" "/p/a.rs", noted "3" "src/lib.rs", noted "4" "build.log",
    noted "5" "/p/x/../src/lib.rs", noted "6" "./src//lib.rs"]

/-- The file comes first, with the diagnostics of each name together. -/
theorem publishedOf_published_spelled :
    let o : Outcome := ⟨true, none, .ofList spelledDiagnostics, [], some 0⟩
    o.diagnostics = .ofList spelledDiagnostics ∧ Path.isAbsolute "/p" = true ∧
      PublishedOf "/p" o.diagnostics (published "/p" o.diagnostics) ∧
      (published "/p" o.diagnostics).map (fun g => (g.1, g.2.map Diagnostic.message)) =
        ([("/p/src/lib.rs", ["1", "6", "3", "5"]), ("/p/a.rs", ["2"])] : List (Text × List Text)) := by
  intro o
  have hdir : Path.isAbsolute "/p" = true := by decide
  exact ⟨rfl, hdir, publishedOf_published o spelledDiagnostics rfl "/p" hdir, by decide⟩

end Report

end ContractBuild
