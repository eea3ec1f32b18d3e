import ContractBuild.Proofs.Announcements
import ContractBuild.Proofs.NormalForms

/-!
# The contract is the last one announced

A message that announces a contract names the file: the first of its files that ends in `.wasm`
(`Message.AnnouncesFile`). Of all messages the last one that announces a contract counts, and the others make no
difference (`Artifact.resolve_last_announced`). The path of the contract is the normal form of the file's name, taken from
the project folder, and it ends in `.wasm` as the name does (`Artifact.Located`).
-/

namespace ContractBuild

/-- A message announces a contract, and `name` is the first of its files that ends in `.wasm`. -/
structure Message.AnnouncesFile (m : Message) (name : Text) : Prop where
  announces : m.Announces
  first : ∃ before after, m.field? "filenames" = some (.list (before ++ .text name :: after)) ∧
    name.endsWith ".wasm" = true ∧ ∀ other, .text other ∈ before → other.endsWith ".wasm" = false

theorem Message.AnnouncesFile.extension {m : Message} {name : Text} (h : m.AnnouncesFile name) :
    name.endsWith ".wasm" = true := by
  obtain ⟨-, -, -, hend, -⟩ := h.first
  exact hend

namespace Artifact

variable {cwd dir name : Text} {m : Message} {messages : List Message}

theorem candidate?_eq_none_iff : candidate? contract m = none ↔ ¬ m.Announces := by
  rw [← candidate?_isSome_iff, Bool.not_eq_true, Option.isSome_eq_false_iff, Option.isNone_iff_eq_none]

theorem candidate?_of_announces (h : m.Announces) :
    candidate? contract m = (fileNames m).find? (·.endsWith ".wasm") := by
  have hsome := candidate?_isSome_iff.2 h
  rw [candidate?] at hsome ⊢
  split
  · rfl
  · rename_i hcond
    rw [if_neg hcond] at hsome
    cases hsome

/-- **The file** that a message announces is the first one with the ending of contracts. -/
theorem candidate?_eq_some_iff : candidate? contract m = some name ↔ m.AnnouncesFile name := by
  constructor
  · intro h
    have hannounces : m.Announces := candidate?_isSome_iff.1 (by rw [h]; rfl)
    obtain ⟨files, -, hfiles, -, -⟩ := hannounces.file
    rw [candidate?_of_announces hannounces, fileNames, hfiles, List.find?_eq_some_iff_append] at h
    obtain ⟨hend, texts, later, hcut, htexts⟩ := h
    obtain ⟨front, back, rfl, hfront, hback⟩ := List.filterMap_eq_append_iff.1 hcut
    obtain ⟨others, v, rest, rfl, hothers, hv, -⟩ := List.filterMap_eq_cons_iff.1 hback
    rw [text?_eq_some_iff.1 hv, ← List.append_assoc] at hfiles
    refine ⟨hannounces, front ++ others, rest, hfiles, hend, fun other hother => ?_⟩
    rcases List.mem_append.1 hother with hother | hother
    · have hmem : other ∈ texts := by
        rw [← hfront]
        exact List.mem_filterMap.2 ⟨_, hother, rfl⟩
      simpa using htexts other hmem
    · cases hothers _ hother
  · rintro ⟨hannounces, before, after, hfiles, hend, hbefore⟩
    rw [candidate?_of_announces hannounces, fileNames, hfiles, List.find?_eq_some_iff_append]
    refine ⟨hend, before.filterMap Value.text?, after.filterMap Value.text?, by simp [Value.text?], fun other hother => ?_⟩
    obtain ⟨v, hv, htext⟩ := List.mem_filterMap.1 hother
    rw [text?_eq_some_iff] at htext
    rw [hbefore other (htext ▸ hv)]
    rfl

/-! ## Where the contract is -/

/-- A contract that was announced under a name, in a project: its path is the normal form of the name, taken from the
project folder. The path is a root with steps behind it, none of them empty, a dot or a double dot. The root is one slash,
and two when the name or the folder starts with exactly two. -/
structure Located (dir name : Text) (a : Artifact) : Prop where
  kind : a.kind = "cdylib"
  path : a.path = Path.normalize (if Path.isAbsolute name then name else Path.join dir name)
  absolute : Path.isAbsolute a.path = true
  normal : ∃ steps, Path.Normal (Path.root (Path.join dir name)) steps a.path
  extension : a.path.endsWith ".wasm" = true

/-- The contract with a name. -/
def named (dir name : Text) : Artifact := ⟨Path.normalize (Path.join dir name), "cdylib"⟩

theorem resolve_eq_named (hdir : Path.isAbsolute dir = true) (cwd : Text) (messages : List Message) :
    resolve contract cwd dir messages = (messages.filterMap (candidate? contract)).getLast?.map (named dir) := by
  rw [resolve_eq]
  congr 1
  funext name
  rw [Path.absolute, Path.join_of_isAbsolute (Path.isAbsolute_join hdir name)]
  rfl

theorem located_named (hdir : Path.isAbsolute dir = true) (hname : name.endsWith ".wasm" = true) :
    Located dir name (named dir name) := by
  have habsolute := Path.isAbsolute_join hdir name
  have hslash : Path.slash ∉ (".wasm" : Text) := by decide
  refine ⟨rfl, ?_, Path.isAbsolute_normalize habsolute, ⟨_, Path.normal_normalize habsolute⟩, ?_⟩
  · rw [named, Path.ite_join]
  · exact Path.endsWith_normalize_join hdir hslash (by decide) hname

/-- **Which contract is found**, for a project at an absolute path. There is none exactly when no message announces one.
Otherwise it is the one of the last message that does, under the name that this message gives it. A message that announces
none makes no difference, wherever it comes, and one that announces a contract replaces whatever was found before it. -/
theorem resolve_last_announced (cwd : Text) (hdir : Path.isAbsolute dir = true) (messages : List Message) :
    (resolve contract cwd dir messages = none ↔ ∀ m ∈ messages, ¬ m.Announces) ∧
      (∀ a, resolve contract cwd dir messages = some a →
        ∃ before m after name, messages = before ++ m :: after ∧ m.AnnouncesFile name ∧
          (∀ later ∈ after, ¬ later.Announces) ∧ Located dir name a) ∧
      (∀ before m after, ¬ m.Announces →
        resolve contract cwd dir (before ++ m :: after) = resolve contract cwd dir (before ++ after)) ∧
      ∀ m, m.Announces → ∃ a name, m.AnnouncesFile name ∧ Located dir name a ∧
        resolve contract cwd dir (messages ++ [m]) = some a := by
  refine ⟨?_, fun a ha => ?_, fun before m after hm => ?_, fun m hm => ?_⟩
  · rw [← Option.not_isSome_iff_eq_none, resolve_isSome_iff]
    simp
  · rw [resolve_eq_named hdir, Option.map_eq_some_iff] at ha
    obtain ⟨name, hlast, rfl⟩ := ha
    obtain ⟨names, hnames⟩ := List.getLast?_eq_some_iff.1 hlast
    obtain ⟨front, back, rfl, -, hback⟩ := List.filterMap_eq_append_iff.1 hnames
    obtain ⟨others, m, after, rfl, -, hm, hafter⟩ := List.filterMap_eq_cons_iff.1 hback
    have hfile : m.AnnouncesFile name := candidate?_eq_some_iff.1 hm
    refine ⟨front ++ others, m, after, name, by rw [List.append_assoc], hfile, fun later hlater => ?_,
      located_named hdir hfile.extension⟩
    exact candidate?_eq_none_iff.1 (List.filterMap_eq_nil_iff.1 hafter later hlater)
  · rw [resolve_eq_named hdir, resolve_eq_named hdir, List.filterMap_append, List.filterMap_append,
      List.filterMap_cons_none (candidate?_eq_none_iff.2 hm)]
  · obtain ⟨name, hname⟩ := Option.isSome_iff_exists.1 (candidate?_isSome_iff.2 hm)
    have hfile : m.AnnouncesFile name := candidate?_eq_some_iff.1 hname
    refine ⟨named dir name, name, hfile, located_named hdir hfile.extension, ?_⟩
    rw [resolve_eq_named hdir, List.filterMap_append, List.filterMap_cons_some hname, List.filterMap_nil,
      List.getLast?_concat, Option.map_some]

/-- A message about a `cdylib` with these files. -/
def announcement (files : List Text) : Message :=
  ⟨.artifactProduced, [("target", .map [("kind", .list [.text "cdylib"])]), ("filenames", .list (files.map .text))], []⟩

/-- Two messages that announce a contract, the second one with a file before it and one behind it, and a message that
announces none. -/
def twoAnnouncements : List Message :=
  [announcement ["deps/x.wasm"], announcement ["x.d", "out/../x.wasm", "y.wasm"], announcement ["libx.so"]]

/-- The contract is that of the second message, and a message with an absolute name replaces it. -/
theorem resolve_last_announced_second :
    Path.isAbsolute "/p" = true ∧
      resolve contract "/" "/p" twoAnnouncements = some ⟨"/p/x.wasm", "cdylib"⟩ ∧
      (∃ before m after name, twoAnnouncements = before ++ m :: after ∧ m.AnnouncesFile name ∧
        (∀ later ∈ after, ¬ later.Announces) ∧ Located "/p" name ⟨"/p/x.wasm", "cdylib"⟩) ∧
      (announcement ["/q//z.wasm"]).Announces ∧
      ∃ a name, (announcement ["/q//z.wasm"]).AnnouncesFile name ∧ Located "/p" name a ∧
        resolve contract "/" "/p" (twoAnnouncements ++ [announcement ["/q//z.wasm"]]) = some a ∧ a.path = "/q/z.wasm" := by
  have hdir : Path.isAbsolute "/p" = true := by decide
  have hsecond : resolve contract "/" "/p" twoAnnouncements = some ⟨"/p/x.wasm", "cdylib"⟩ := by decide
  have hlast : resolve contract "/" "/p" (twoAnnouncements ++ [announcement ["/q//z.wasm"]]) =
      some ⟨"/q/z.wasm", "cdylib"⟩ := by decide
  have hannounces : (announcement ["/q//z.wasm"]).Announces := candidate?_isSome_iff.1 (by decide)
  obtain ⟨-, hfound, -, hreplaced⟩ := resolve_last_announced "/" hdir twoAnnouncements
  obtain ⟨a, name, hfile, hlocated, ha⟩ := hreplaced _ hannounces
  refine ⟨hdir, hsecond, hfound _ hsecond, hannounces, a, name, hfile, hlocated, ha, ?_⟩
  rw [hlast, Option.some.injEq] at ha
  rw [← ha]

end Artifact

end ContractBuild
