import ContractBuild.Machine
import ContractBuild.Proofs.Affixes

/-!
# Where paths lead

Without double dots a path is the list of its names (`Path.names`), and it leads to a folder when folders stand all
along these names (`Disk.isFolder_iff`). A normal form has the same names (`Path.names_normalize`). So a path that
does not climb leads where its absolute path leads, be it to a folder (`Machine.Settled.isFolder_absolute`) or to a
file in it (`Machine.Settled.isFile_join_absolute`).

Double dots are another matter: a normal form takes back the name before them, whether or not anything stands there.
-/

namespace ContractBuild

/-! ## Absolute paths -/

namespace Path

variable {p base start : Text}

theorem ne_nil_of_isAbsolute (h : isAbsolute p = true) : p ≠ [] := by
  rintro rfl
  cases h

theorem isAbsolute_append (h : isAbsolute base = true) (p : Text) : isAbsolute (base ++ p) = true := by
  obtain ⟨c, rest, rfl⟩ := List.exists_cons_of_ne_nil (ne_nil_of_isAbsolute h)
  exact h

theorem isAbsolute_join (h : isAbsolute base = true) (p : Text) : isAbsolute (join base p) = true := by
  rw [join]
  split
  · assumption
  · split
    · exact isAbsolute_append h p
    · exact isAbsolute_append (isAbsolute_append h _) p

theorem isAbsolute_normalize (h : isAbsolute p = true) : isAbsolute (normalize p) = true := by
  have hroot : isAbsolute (root p) = true := by
    rw [root, h]
    split
    · contradiction
    · split <;> rfl
  have hpath := isAbsolute_append hroot (ofSegments (segments p))
  rw [normalize, if_neg (by rw [List.isEmpty_iff]; exact ne_nil_of_isAbsolute hpath)]
  exact hpath

theorem join_of_isAbsolute (h : isAbsolute p = true) (base : Text) : join base p = p := if_pos h

/-- Joining is needed only for relative paths. -/
theorem ite_join (base p : Text) : (if isAbsolute p then p else join base p) = join base p := by
  split
  · rename_i h
    exact (join_of_isAbsolute h base).symm
  · rfl

/-- Joining keeps a path absolute, and a relative one relative. -/
theorem isAbsolute_join_iff (hbase : base ≠ []) (hp : isAbsolute p = false) :
    isAbsolute (join base p) = isAbsolute base := by
  obtain ⟨c, rest, rfl⟩ := List.exists_cons_of_ne_nil hbase
  rw [join, if_neg (by rw [hp]; exact Bool.false_ne_true)]
  split <;> rfl

theorem join_ne_nil (hbase : base ≠ []) (p : Text) : join base p ≠ [] := by
  rw [join]
  split
  · rename_i hp
    exact ne_nil_of_isAbsolute hp
  · split
    · exact List.append_ne_nil_of_left_ne_nil hbase _
    · exact List.append_ne_nil_of_left_ne_nil (List.append_ne_nil_of_left_ne_nil hbase _) _

theorem isAbsolute_of_slash_not_mem (h : slash ∉ p) : isAbsolute p = false := by
  cases p with
  | nil => rfl
  | cons c rest =>
    have hc : c ≠ slash := fun e => h (by rw [e]; exact List.mem_cons_self)
    simp [isAbsolute, hc]

/-- The way from one absolute path to another does not depend on the working folder. -/
theorem relative_of_isAbsolute (hstart : isAbsolute start = true) (hp : isAbsolute p = true) (cwd cwd' : Text) :
    relative cwd start p = relative cwd' start p := by
  simp only [relative, absolute, join_of_isAbsolute hstart, join_of_isAbsolute hp]

end Path

/-! ## Names -/

namespace Path

/-- A segment that leads on: it is not empty and not a dot. -/
def isName (s : Text) : Bool := s ≠ [] && s ≠ "."

/-- What leads on is what is not skipped. -/
theorem skipped_eq (s : Text) : (decide (s = []) || decide (s = ".")) = !isName s := by
  simp [isName]

/-- The segments of a path that lead on. -/
def names (p : Text) : List Text := (p.splitOn slash).filter isName

/-- A path goes up at some place. -/
def Climbs (p : Text) : Prop := (".." : Text) ∈ names p

theorem climbs_iff {p : Text} : Climbs p ↔ (".." : Text) ∈ p.splitOn slash := by
  rw [Climbs, names, List.mem_filter, and_iff_left (by decide)]

theorem splitOn_append_slash (p q : Text) :
    (p ++ slash :: q).splitOn slash = p.splitOn slash ++ q.splitOn slash :=
  List.splitOnP_append_cons p q BEq.rfl

theorem names_append_slash (p q : Text) : names (p ++ slash :: q) = names p ++ names q := by
  rw [names, splitOn_append_slash, List.filter_append, names, names]

theorem names_slash (q : Text) : names (slash :: q) = names q := names_append_slash [] q

/-- A relative path is joined behind the segments of its base, which may end in a slash. -/
theorem exists_splitOn_join {p : Text} (hp : isAbsolute p = false) (base : Text) :
    ∃ segments, segments.filter isName = names base ∧ (join base p).splitOn slash = segments ++ p.splitOn slash := by
  rw [join, if_neg (by rw [hp]; exact Bool.false_ne_true)]
  split
  · rename_i h
    rcases List.eq_nil_or_concat base with rfl | ⟨stem, c, rfl⟩
    · exact ⟨[], rfl, rfl⟩
    · have hc : c = slash := by simpa using h
      have hnames : names (stem ++ [slash]) = names stem := by
        rw [names_append_slash]
        exact List.append_nil _
      rw [hc, List.concat_eq_append, List.append_assoc, hnames]
      exact ⟨stem.splitOn slash, rfl, splitOn_append_slash stem p⟩
  · refine ⟨base.splitOn slash, rfl, ?_⟩
    rw [List.append_assoc]
    exact splitOn_append_slash base p

theorem names_join {p : Text} (hp : isAbsolute p = false) (base : Text) :
    names (join base p) = names base ++ names p := by
  obtain ⟨segments, hsegments, hsplit⟩ := exists_splitOn_join hp base
  rw [names, hsplit, List.filter_append, hsegments]
  rfl

/-! ## Normal forms -/

/-- Without double dots, resolving only drops what does not lead on. -/
theorem resolveFrom_of_not_mem {segments : List Text} (h : (".." : Text) ∉ segments) (rooted : Bool)
    (done : List Text) : resolveFrom rooted done segments = done.reverse ++ segments.filter isName := by
  induction segments generalizing done with
  | nil => rw [resolveFrom, List.filter_nil, List.append_nil]
  | cons s rest ih =>
    obtain ⟨hs, hrest⟩ := not_or.1 (mt List.mem_cons.2 h)
    rw [resolveFrom.eq_def]
    dsimp only
    rw [if_neg (Ne.symm hs), ih hrest, ih hrest, skipped_eq]
    cases hname : isName s with
    | true =>
      rw [if_neg (by decide), List.filter_cons_of_pos hname, List.reverse_cons, List.append_assoc]
      rfl
    | false => rw [if_pos Bool.not_false, List.filter_cons_of_neg (by rw [hname]; exact Bool.false_ne_true)]

theorem segments_of_not_climbs {p : Text} (h : ¬ Climbs p) : segments p = names p :=
  resolveFrom_of_not_mem (mt climbs_iff.2 h) (isAbsolute p) []

/-- Names with slashes between them have these names. -/
theorem names_ofSegments {ns : List Text} (hname : ∀ s ∈ ns, isName s = true) (hslash : ∀ s ∈ ns, slash ∉ s) :
    names (ofSegments ns) = ns := by
  by_cases hns : ns = []
  · rw [hns]
    rfl
  · rw [names, show ofSegments ns = [slash].intercalate ns from rfl, List.splitOn_intercalate slash hslash hns,
      List.filter_eq_self.2 hname]

/-- **The normal form** of an absolute path that does not climb has the same names. -/
theorem names_normalize {p : Text} (habsolute : isAbsolute p = true) (h : ¬ Climbs p) :
    names (normalize p) = names p := by
  have hpath : names (ofSegments (segments p)) = names p := by
    rw [segments_of_not_climbs h]
    exact names_ofSegments (fun s hs => (List.mem_filter.1 hs).2)
      fun s hs => Text.not_mem_of_mem_splitOn (List.mem_filter.1 hs).1
  rw [normalize, root, habsolute]
  split
  · contradiction
  · split
    · exact (names_slash _).trans ((names_slash _).trans hpath)
    · exact (names_slash _).trans hpath

end Path

/-! ## Following a path -/

namespace Disk

variable {d : Disk} {about : Text} {here names segments : List Text}

/-- Folders stand all along the way from `here`, at its end too. -/
def Stands (d : Disk) (here names : List Text) : Prop := ∀ way, way <+: names → d.hasFolder (here ++ way) = true

theorem Stands.hasFolder (h : d.Stands here names) : d.hasFolder here = true := by
  simpa using h [] List.nil_prefix

theorem stands_nil : d.Stands here [] ↔ d.hasFolder here = true := by
  simp [Stands, List.prefix_nil]

theorem stands_cons {s : Text} :
    d.Stands here (s :: names) ↔ d.hasFolder here = true ∧ d.Stands (here ++ [s]) names := by
  constructor
  · intro h
    refine ⟨h.hasFolder, fun way hway => ?_⟩
    rw [List.append_assoc]
    exact h (s :: way) (List.cons_prefix_cons.2 ⟨rfl, hway⟩)
  · rintro ⟨hhere, h⟩ way hway
    rcases List.prefix_cons_iff.1 hway with rfl | ⟨rest, rfl, hrest⟩
    · rwa [List.append_nil]
    · rw [← List.singleton_append, ← List.append_assoc]
      exact h rest hrest

theorem stands_append {more : List Text} :
    d.Stands here (names ++ more) ↔ d.Stands here names ∧ d.Stands (here ++ names) more := by
  induction names generalizing here with
  | nil =>
    rw [List.nil_append, List.append_nil, stands_nil, iff_and_self]
    exact Stands.hasFolder
  | cons s names ih => rw [List.cons_append, stands_cons, stands_cons, ih, List.append_assoc, and_assoc]; rfl

/-- A segment that is no double dot is followed from a folder. -/
theorem walk_cons_of_folder {s : Text} (hs : s ≠ "..") (hhere : d.hasFolder here = true) (about : Text) :
    d.walk about here (s :: segments) = d.walk about (if Path.isName s then here ++ [s] else here) segments := by
  have hnode : d.node? here = some .folder := by
    rw [hasFolder] at hhere
    split at hhere
    · assumption
    · cases hhere
  rw [walk, hnode]
  dsimp only
  rw [if_neg hs]
  rw [Path.skipped_eq]
  cases Path.isName s <;> rfl

/-- Nothing is followed from where no folder is. -/
theorem walk_cons_of_no_folder (hhere : d.hasFolder here = false) (about s : Text) (segments : List Text) :
    ∃ e, d.walk about here (s :: segments) = .error e := by
  rw [walk]
  split
  · exact ⟨_, rfl⟩
  · exact ⟨_, rfl⟩
  · rename_i hnode
    rw [hasFolder, hnode] at hhere
    cases hhere

/-- A path that leads somewhere leads along its names. -/
theorem eq_of_walk {ss : List Text} (h : (".." : Text) ∉ segments) (hwalk : d.walk about here segments = .ok ss) :
    ss = here ++ segments.filter Path.isName := by
  induction segments generalizing here with
  | nil =>
    cases hwalk
    rw [List.filter_nil, List.append_nil]
  | cons s segments ih =>
    obtain ⟨hs, hsegments⟩ := not_or.1 (mt List.mem_cons.2 h)
    cases hhere : d.hasFolder here with
    | false =>
      obtain ⟨e, he⟩ := walk_cons_of_no_folder hhere about s segments
      rw [he] at hwalk
      cases hwalk
    | true =>
      rw [walk_cons_of_folder (Ne.symm hs) hhere] at hwalk
      rw [ih hsegments hwalk]
      cases hname : Path.isName s <;> simp [hname]

/-- **A path leads to a folder** when folders stand all along its names. -/
theorem exists_walk_iff (h : (".." : Text) ∉ segments) (about : Text) :
    (∃ ss, d.walk about here segments = .ok ss ∧ d.hasFolder ss = true) ↔
      d.Stands here (segments.filter Path.isName) := by
  induction segments generalizing here with
  | nil => simp [walk, stands_nil]
  | cons s segments ih =>
    obtain ⟨hs, hsegments⟩ := not_or.1 (mt List.mem_cons.2 h)
    cases hhere : d.hasFolder here with
    | false =>
      obtain ⟨e, he⟩ := walk_cons_of_no_folder hhere about s segments
      rw [he]
      refine iff_of_false (by simp) fun hstands => ?_
      rw [hstands.hasFolder] at hhere
      cases hhere
    | true =>
      rw [walk_cons_of_folder (Ne.symm hs) hhere, ih hsegments]
      cases hname : Path.isName s with
      | false => rw [if_neg Bool.false_ne_true, List.filter_cons_of_neg (by rw [hname]; exact Bool.false_ne_true)]
      | true => rw [if_pos rfl, List.filter_cons_of_pos hname, stands_cons, hhere, and_iff_right rfl]

theorem walk_append (about : Text) (here segments more : List Text) :
    d.walk about here (segments ++ more) =
      match d.walk about here segments with
      | .ok ss => d.walk about ss more
      | .error e => .error e := by
  induction segments generalizing here with
  | nil => rfl
  | cons s segments ih =>
    rw [List.cons_append, walk, walk]
    split
    · rfl
    · rfl
    · split
      · exact ih here
      · split
        · exact ih here.dropLast
        · exact ih (here ++ [s])

/-- **A name behind a path** is followed from the folder that the path leads to. -/
theorem exists_walk_concat_iff {s : Text} (hs : s ≠ "..") (hname : Path.isName s = true)
    (h : (".." : Text) ∉ segments) (about : Text) (P : List Text → Prop) :
    (∃ ss, d.walk about here (segments ++ [s]) = .ok ss ∧ P ss) ↔
      d.Stands here (segments.filter Path.isName) ∧ P (here ++ segments.filter Path.isName ++ [s]) := by
  have hlast {ss : List Text} (hfolder : d.hasFolder ss = true) : d.walk about ss [s] = .ok (ss ++ [s]) := by
    rw [walk_cons_of_folder hs hfolder, if_pos hname, walk]
  rw [walk_append, ← exists_walk_iff h about]
  constructor
  · rintro ⟨ss, hwalk, hP⟩
    cases hfirst : d.walk about here segments with
    | error e =>
      rw [hfirst] at hwalk
      cases hwalk
    | ok mid =>
      rw [hfirst] at hwalk
      dsimp only at hwalk
      cases hmid : d.hasFolder mid with
      | false =>
        obtain ⟨e, he⟩ := walk_cons_of_no_folder hmid about s []
        rw [he] at hwalk
        cases hwalk
      | true =>
        rw [hlast hmid] at hwalk
        rw [← eq_of_walk h hfirst, Except.ok.inj hwalk]
        exact ⟨⟨mid, rfl, hmid⟩, hP⟩
  · rintro ⟨⟨mid, hfirst, hmid⟩, hP⟩
    rw [← eq_of_walk h hfirst] at hP
    rw [hfirst]
    exact ⟨mid ++ [s], hlast hmid, hP⟩

/-! ## Folders and files at paths -/

variable {cwd p : Text}

/-- A file stands there. -/
def HasFile (d : Disk) (ss : List Text) : Prop := ∃ content program, d.node? ss = some (.file content program)

/-- Where a path is followed from. -/
def origin (cwd p : Text) : List Text := if Path.isAbsolute p then [] else Path.parts cwd

theorem follow_of_ne_nil (hp : p ≠ []) (d : Disk) (cwd : Text) :
    d.follow cwd p = d.walk p (origin cwd p) (p.splitOn Path.slash) :=
  if_neg (by rwa [List.isEmpty_iff])

theorem isFolder_iff_follow : d.isFolder cwd p = true ↔ ∃ ss, d.follow cwd p = .ok ss ∧ d.hasFolder ss = true := by
  rw [isFolder, nodeAt]
  cases d.follow cwd p with
  | error e => simp
  | ok ss =>
    simp only [Except.ok.injEq, exists_eq_left', hasFolder]
    cases d.node? ss with
    | none => rfl
    | some node => cases node <;> rfl

theorem isFile_iff_follow : d.isFile cwd p = true ↔ ∃ ss, d.follow cwd p = .ok ss ∧ d.HasFile ss := by
  rw [isFile, nodeAt]
  cases d.follow cwd p with
  | error e => simp
  | ok ss =>
    simp only [Except.ok.injEq, exists_eq_left', HasFile]
    cases d.node? ss with
    | none => simp
    | some node => cases node <;> simp

/-- **A path that does not climb leads to a folder** when folders stand all along its names. -/
theorem isFolder_iff (hp : p ≠ []) (h : ¬ Path.Climbs p) :
    d.isFolder cwd p = true ↔ d.Stands (origin cwd p) (Path.names p) := by
  rw [isFolder_iff_follow, follow_of_ne_nil hp]
  exact exists_walk_iff (mt Path.climbs_iff.2 h) p

/-- **A file in a folder**: the folder is there, and the file is in it. -/
theorem isFile_join_iff (hp : p ≠ []) (h : ¬ Path.Climbs p) {name : Text} (hname : Path.isName name = true)
    (hup : name ≠ "..") (hslash : Path.slash ∉ name) :
    d.isFile cwd (Path.join p name) = true ↔
      d.Stands (origin cwd p) (Path.names p) ∧ d.HasFile (origin cwd p ++ Path.names p ++ [name]) := by
  have hrelative : Path.isAbsolute name = false := Path.isAbsolute_of_slash_not_mem hslash
  obtain ⟨segments, hsegments, hsplit⟩ := Path.exists_splitOn_join hrelative p
  have hclimb : (".." : Text) ∉ segments := fun hmem =>
    h (by rw [Path.Climbs, ← hsegments]; exact List.mem_filter.2 ⟨hmem, by decide⟩)
  rw [List.splitOn_eq_singleton hslash] at hsplit
  rw [isFile_iff_follow, follow_of_ne_nil (Path.join_ne_nil hp name), hsplit, origin,
    Path.isAbsolute_join_iff hp hrelative, ← origin, ← hsegments]
  exact exists_walk_concat_iff hup hname hclimb _ d.HasFile

end Disk

/-! ## Absolute paths on a machine -/

namespace Machine

/-- The working folder of a machine is there, under an absolute path without dots. -/
structure Settled (m : Machine) : Prop where
  absolute : Path.isAbsolute m.cwd = true
  plain : ∀ s ∈ Path.parts m.cwd, s ≠ "." ∧ s ≠ ".."
  stands : m.disk.isFolder m.cwd m.cwd = true

variable {m : Machine} {p : Text}

theorem Settled.parts_eq (hm : m.Settled) : Path.parts m.cwd = Path.names m.cwd := by
  refine List.filter_congr fun s hs => ?_
  by_cases hempty : s = []
  · simp [Path.isName, hempty]
  · have hdot : s ≠ "." := (hm.plain s (List.mem_filter.2 ⟨hs, decide_eq_true hempty⟩)).1
    simp [Path.isName, hempty, hdot]

theorem Settled.not_climbs (hm : m.Settled) : ¬ Path.Climbs m.cwd := by
  rw [Path.Climbs, ← hm.parts_eq]
  exact fun h => (hm.plain _ h).2 rfl

/-- The absolute path of a path that does not climb has the names of the way to it. -/
theorem Settled.names_absolute (hm : m.Settled) (h : ¬ Path.Climbs p) :
    ¬ Path.Climbs (Path.absolute m.cwd p) ∧
      Path.names (Path.absolute m.cwd p) = Disk.origin m.cwd p ++ Path.names p := by
  have hjoin : Path.names (Path.join m.cwd p) = Disk.origin m.cwd p ++ Path.names p := by
    rw [Disk.origin]
    cases hp : Path.isAbsolute p with
    | true => rw [Path.join_of_isAbsolute hp, if_pos rfl, List.nil_append]
    | false => rw [Path.names_join hp, if_neg Bool.false_ne_true, hm.parts_eq]
  have hclimbs : ¬ Path.Climbs (Path.join m.cwd p) := by
    rw [Path.Climbs, hjoin, List.mem_append, not_or, Disk.origin]
    refine ⟨?_, h⟩
    split
    · exact List.not_mem_nil
    · exact fun hmem => (hm.plain _ hmem).2 rfl
  have hnames := Path.names_normalize (Path.isAbsolute_join hm.absolute p) hclimbs
  refine ⟨?_, hnames.trans hjoin⟩
  rw [Path.absolute, Path.Climbs, hnames]
  exact hclimbs

/-- On the way to a path everything stands that stands on the way to its absolute path. -/
theorem Settled.stands_absolute (hm : m.Settled) :
    m.disk.Stands [] (Disk.origin m.cwd p ++ Path.names p) ↔
      m.disk.Stands (Disk.origin m.cwd p) (Path.names p) := by
  have hcwd := hm.stands
  rw [Disk.isFolder_iff (Path.ne_nil_of_isAbsolute hm.absolute) hm.not_climbs, ← hm.parts_eq, Disk.origin, hm.absolute,
    if_pos rfl] at hcwd
  rw [Disk.origin]
  split
  · rfl
  · rw [Disk.stands_append, and_iff_right hcwd]
    rfl

/-- **The absolute path** of a path that does not climb leads to a folder exactly when the path does. -/
theorem Settled.isFolder_absolute (hm : m.Settled) (hp : p ≠ []) (h : ¬ Path.Climbs p) :
    m.disk.isFolder m.cwd (Path.absolute m.cwd p) = m.disk.isFolder m.cwd p := by
  obtain ⟨hclimbs, hnames⟩ := hm.names_absolute h
  have habsolute : Path.isAbsolute (Path.absolute m.cwd p) = true :=
    Path.isAbsolute_normalize (Path.isAbsolute_join hm.absolute p)
  rw [Bool.eq_iff_iff, Disk.isFolder_iff (Path.ne_nil_of_isAbsolute habsolute) hclimbs, Disk.isFolder_iff hp h,
    hnames, Disk.origin, habsolute, if_pos rfl]
  exact hm.stands_absolute

/-- **A file in the folder** that a path leads to is one in the folder that its absolute path leads to. -/
theorem Settled.isFile_join_absolute (hm : m.Settled) (hp : p ≠ []) (h : ¬ Path.Climbs p) {name : Text}
    (hname : Path.isName name = true) (hup : name ≠ "..") (hslash : Path.slash ∉ name) :
    m.disk.isFile m.cwd (Path.join (Path.absolute m.cwd p) name) = m.disk.isFile m.cwd (Path.join p name) := by
  obtain ⟨hclimbs, hnames⟩ := hm.names_absolute h
  have habsolute : Path.isAbsolute (Path.absolute m.cwd p) = true :=
    Path.isAbsolute_normalize (Path.isAbsolute_join hm.absolute p)
  rw [Bool.eq_iff_iff, Disk.isFile_join_iff (Path.ne_nil_of_isAbsolute habsolute) hclimbs hname hup hslash,
    Disk.isFile_join_iff hp h hname hup hslash, hnames, Disk.origin, habsolute, if_pos rfl, hm.stands_absolute]
  rfl

end Machine

end ContractBuild
