import ContractBuild.Proofs.FirstSeen
import ContractBuild.Report
import Mathlib.Data.List.Induction
import Mathlib.Data.List.Perm.Basic

/-!
# Groups of diagnostics

Diagnostics are put together in groups twice: by the files that they name, and by the paths that these are published
under. One step is the same for both (`Diagnostics.addTo_eq_publish`): what comes is put behind what its group has, or
it opens a group. The step loses nothing (`Report.flatMap_publish_perm`) and keeps the groups apart
(`Report.Keyed.publish`).

So diagnostics that are put together by adding are grouped (`Diagnostics.grouped_ofList`), and every one of them is
there (`Diagnostics.flatten_ofList_perm`). Errors and warnings are all there is to count
(`Diagnostics.count_add_count`).

Groups come in the order in which they are opened, and within a group everything stays in order
(`Report.foldl_publish`). For diagnostics that are put together by adding, `Diagnostics.ofList_by_file` says what this
means for everything that can be asked about them.
-/

namespace ContractBuild

/-! ## One step -/

namespace Report

variable {path : Text} {ds : List Diagnostic} {gs : List (Text × List Diagnostic)} {key? : Diagnostic → Option Text}

/-- Every key is there once, with diagnostics, and all of these belong to it. -/
structure Keyed (key? : Diagnostic → Option Text) (gs : List (Text × List Diagnostic)) : Prop where
  nodup : (gs.map Prod.fst).Nodup
  nonempty : ∀ g ∈ gs, g.2 ≠ []
  own : ∀ g ∈ gs, ∀ d ∈ g.2, key? d = some g.1

theorem keyed_nil : Keyed key? [] := ⟨List.nodup_nil, nofun, nofun⟩

/-- A path that is published under is there. -/
theorem paths_publish (path : Text) (ds : List Diagnostic) (gs : List (Text × List Diagnostic)) :
    (publish path ds gs).map Prod.fst =
      if path ∈ gs.map Prod.fst then gs.map Prod.fst else gs.map Prod.fst ++ [path] := by
  induction gs with
  | nil => simp [publish]
  | cons g rest ih =>
    obtain ⟨p, known⟩ := g
    by_cases h : p = path
    · simp [publish, h]
    · have h' : ¬ path = p := fun e => h e.symm
      simp only [publish, h, if_false, List.map_cons, ih, List.mem_cons, h', false_or]
      split <;> rfl

/-- A group is as before, or it is that of the path, with the new diagnostics behind those before them. -/
theorem mem_publish {g : Text × List Diagnostic} (h : g ∈ publish path ds gs) :
    g ∈ gs ∨ g = (path, ds) ∨ ∃ known, (path, known) ∈ gs ∧ g = (path, known ++ ds) := by
  induction gs with
  | nil => exact .inr (.inl (List.mem_singleton.1 h))
  | cons first rest ih =>
    obtain ⟨p, known⟩ := first
    rw [publish] at h
    split at h
    · rename_i hpath
      rcases List.mem_cons.1 h with rfl | h
      · exact .inr (.inr ⟨known, by rw [← hpath]; exact List.mem_cons_self, by rw [hpath]⟩)
      · exact .inl (List.mem_cons_of_mem _ h)
    · rcases List.mem_cons.1 h with rfl | h
      · exact .inl List.mem_cons_self
      · rcases ih h with h | h | ⟨known', hmem, h⟩
        · exact .inl (List.mem_cons_of_mem _ h)
        · exact .inr (.inl h)
        · exact .inr (.inr ⟨known', List.mem_cons_of_mem _ hmem, h⟩)

/-- Publishing keeps all diagnostics. -/
theorem flatMap_publish_perm (path : Text) (ds : List Diagnostic) (gs : List (Text × List Diagnostic)) :
    ((publish path ds gs).flatMap Prod.snd).Perm (gs.flatMap Prod.snd ++ ds) := by
  induction gs with
  | nil => rw [publish, List.flatMap_singleton]; exact .refl ds
  | cons g rest ih =>
    obtain ⟨p, known⟩ := g
    rw [publish]
    split
    · rw [List.flatMap_cons, List.flatMap_cons, List.append_assoc, List.append_assoc]
      exact List.perm_append_comm.append_left known
    · rw [List.flatMap_cons, List.flatMap_cons, List.append_assoc]
      exact ih.append_left known

/-- **Publishing** keeps the groups apart. -/
theorem Keyed.publish (h : Keyed key? gs) (hds : ds ≠ []) (hown : ∀ d ∈ ds, key? d = some path) :
    Keyed key? (publish path ds gs) where
  nodup := by
    rw [paths_publish]
    split
    · exact h.nodup
    · rename_i hnew
      rw [← List.concat_eq_append]
      exact h.nodup.concat hnew
  nonempty g hg := by
    rcases mem_publish hg with hg | rfl | ⟨known, -, rfl⟩
    · exact h.nonempty g hg
    · exact hds
    · exact List.append_ne_nil_of_right_ne_nil _ hds
  own g hg d hd := by
    rcases mem_publish hg with hg | rfl | ⟨known, hknown, rfl⟩
    · exact h.own g hg d hd
    · exact hown d hd
    · rcases List.mem_append.1 hd with hd | hd
      · exact h.own _ hknown d hd
      · exact hown d hd

/-- Among groups with different paths, publishing goes to the group of the path, or it opens one at the end. -/
theorem publish_eq (h : (gs.map Prod.fst).Nodup) (path : Text) (ds : List Diagnostic) :
    publish path ds gs =
      if path ∈ gs.map Prod.fst then gs.map fun g => if g.1 = path then (path, g.2 ++ ds) else g
      else gs ++ [(path, ds)] := by
  induction gs with
  | nil => rfl
  | cons g rest ih =>
    obtain ⟨p, known⟩ := g
    obtain ⟨hp, hrest⟩ : p ∉ rest.map Prod.fst ∧ (rest.map Prod.fst).Nodup := List.nodup_cons.1 h
    rw [publish]
    by_cases hpath : p = path
    · subst hpath
      have hsame : rest.map (fun g => if g.1 = p then (p, g.2 ++ ds) else g) = rest.map id := by
        refine List.map_congr_left fun g hg => if_neg fun hpath => hp ?_
        rw [← hpath]
        exact List.mem_map_of_mem hg
      simp [hsame]
    · simp only [hpath, Ne.symm hpath, ih hrest, List.map_cons, List.mem_cons, false_or, if_false]
      split <;> rfl

theorem publish_collect (path : Text) (ds : List Diagnostic) (xs : List (Text × List Diagnostic)) :
    publish path ds (collect xs) = collect (xs ++ [(path, ds)]) := by
  have hnodup : ((collect xs).map Prod.fst).Nodup := by rw [map_fst_collect]; exact eraseDups_nodup _
  rw [publish_eq hnodup, collect_concat, map_fst_collect]
  simp only [List.mem_eraseDups]

/-- **Publishing one after the other** puts everything together path by path, in order. -/
theorem foldl_publish (xs : List (Text × List Diagnostic)) :
    xs.foldl (fun gs x => publish x.1 x.2 gs) [] = collect xs := by
  induction xs using List.reverseRecOn with
  | nil => rfl
  | append_singleton xs x ih => rw [List.foldl_concat, ih, publish_collect]

end Report

namespace Diagnostics

/-- Adding a diagnostic is publishing it under its file. -/
theorem addTo_eq_publish (d : Diagnostic) (gs : List (Text × List Diagnostic)) :
    addTo d gs = Report.publish d.file [d] gs := by
  induction gs with
  | nil => rfl
  | cons g rest ih => rw [addTo, Report.publish, ih]

/-! ## Many diagnostics -/

/-- Every file is there once, with diagnostics, and all of these are its own. -/
def Grouped (ds : Diagnostics) : Prop := Report.Keyed (fun d => some d.file) ds.groups

/-- **Adding diagnostics** keeps the groups. -/
theorem Grouped.addAll {ds : Diagnostics} (h : ds.Grouped) (new : List Diagnostic) : (ds.addAll new).Grouped := by
  induction new generalizing ds with
  | nil => exact h
  | cons d new ih =>
    refine ih ?_
    rw [Grouped, add, addTo_eq_publish]
    exact h.publish (List.cons_ne_nil _ _) fun e he => by rw [List.mem_singleton.1 he]

theorem grouped_empty : empty.Grouped := Report.keyed_nil

theorem grouped_ofList (added : List Diagnostic) : (ofList added).Grouped := grouped_empty.addAll added

/-- **Every diagnostic that is added is there**, as often as it is added. -/
theorem flatten_addAll_perm (ds : Diagnostics) (new : List Diagnostic) :
    (ds.addAll new).flatten.Perm (ds.flatten ++ new) := by
  induction new generalizing ds with
  | nil => rw [List.append_nil]; exact .refl _
  | cons d new ih =>
    have hadd : (ds.add d).flatten.Perm (ds.flatten ++ [d]) := by
      rw [flatten, add, addTo_eq_publish]
      exact Report.flatMap_publish_perm d.file [d] ds.groups
    have hrest := (ih (ds.add d)).trans (hadd.append_right new)
    rw [List.append_assoc] at hrest
    exact hrest

theorem flatten_ofList_perm (added : List Diagnostic) : (ofList added).flatten.Perm added :=
  flatten_addAll_perm empty added

/-! ## Counting -/

theorem size_eq (ds : Diagnostics) : ds.size = ds.flatten.length := by
  have hfrom (n : Nat) (gs : List (Text × List Diagnostic)) :
      gs.foldl (fun n g => n + g.2.length) n = n + (gs.flatMap Prod.snd).length := by
    induction gs generalizing n with
    | nil => rfl
    | cons g rest ih => rw [List.foldl_cons, ih, List.flatMap_cons, List.length_append, Nat.add_assoc]
  rw [size, hfrom, Nat.zero_add, flatten]

/-- **Errors and warnings** are all diagnostics. -/
theorem count_add_count (ds : Diagnostics) : ds.count .error + ds.count .warning = ds.size := by
  rw [size_eq, count, count]
  induction ds.flatten with
  | nil => rfl
  | cons d rest ih =>
    rw [List.countP_cons, List.countP_cons, List.length_cons, ← ih]
    cases d.severity <;> simp <;> omega

/-! ## In order -/

theorem groups_ofList (added : List Diagnostic) :
    (ofList added).groups = collect (added.map fun d => (d.file, [d])) := by
  induction added using List.reverseRecOn with
  | nil => rfl
  | append_singleton added d ih =>
    have hadd : (ofList (added ++ [d])).groups = Report.publish d.file [d] (ofList added).groups := by
      rw [ofList, addAll, List.foldl_concat, add, addTo_eq_publish]
      rfl
    rw [hadd, ih, Report.publish_collect, List.map_append]
    rfl

theorem under_map_file (file : Text) (added : List Diagnostic) :
    under file (added.map fun d => (d.file, [d])) = added.filter (·.file = file) := by
  rw [under, List.filter_map, List.flatMap_map]
  exact List.flatMap_singleton' _

theorem files_ofList (added : List Diagnostic) : (ofList added).files = (added.map Diagnostic.file).eraseDups := by
  rw [files, groups_ofList, map_fst_collect, List.map_map]
  rfl

theorem forFile_ofList (added : List Diagnostic) (file : Text) :
    (ofList added).forFile file = added.filter (·.file = file) := by
  rw [forFile, groups_ofList, lookup_collect, under_map_file]

theorem groups_eq_files (added : List Diagnostic) :
    (ofList added).groups = (ofList added).files.map fun file => (file, (ofList added).forFile file) := by
  simp only [forFile_ofList, files_ofList, groups_ofList, collect, under_map_file, List.map_map]
  rfl

theorem flatten_eq_files (added : List Diagnostic) :
    (ofList added).flatten = (ofList added).files.flatMap (ofList added).forFile := by
  rw [flatten, groups_eq_files, List.flatMap_map]

/-- A file is there when one of its diagnostics is. -/
theorem contains_ofList_iff (added : List Diagnostic) (file : Text) :
    (ofList added).contains file = true ↔ (ofList added).forFile file ≠ [] := by
  rw [contains, List.elem_iff, files_ofList, List.mem_eraseDups, forFile_ofList, ne_eq, List.filter_eq_nil_iff]
  simp

/-- Within a file all diagnostics stay in order. -/
theorem filter_flatten_ofList (added : List Diagnostic) (file : Text) :
    (ofList added).flatten.filter (·.file = file) = added.filter (·.file = file) := by
  have hone (f : Text) : ((ofList added).forFile f).filter (·.file = file) =
      if f = file then added.filter (·.file = file) else [] := by
    rw [forFile_ofList, List.filter_filter]
    split
    · rename_i h
      rw [h]
      exact List.filter_congr fun d _ => Bool.and_self _
    · rename_i h
      rw [List.filter_eq_nil_iff]
      intro d _ hd
      obtain ⟨hfile, hf⟩ := Bool.and_eq_true_iff.1 hd
      exact h ((of_decide_eq_true hf).symm.trans (of_decide_eq_true hfile))
  rw [flatten_eq_files, List.filter_flatMap]
  simp only [hone]
  rw [flatMap_of_nodup (by rw [files_ofList]; exact eraseDups_nodup _)]
  split
  · rfl
  · rename_i h
    have hnone := mt (contains_ofList_iff added file).2 (by rwa [contains, List.elem_iff])
    rw [ne_eq, Classical.not_not, forFile_ofList] at hnone
    exact hnone.symm

/-- **Diagnostics by file**, of diagnostics that were added one by one.

The files come in the order in which they are first seen, and a file has its diagnostics in the order in which they were
added. A file is there exactly when it has diagnostics. All diagnostics, file by file, are those that were added, and in
each file in the same order. There are as many as were added, and each of them is an error or a warning. The groups and
the value list the same files with the same diagnostics. -/
theorem ofList_by_file (added : List Diagnostic) :
    let ds := ofList added
    ds.files = (added.map Diagnostic.file).eraseDups ∧
      (∀ file, ds.forFile file = added.filter (·.file = file)) ∧
      (∀ file, ds.contains file = true ↔ ds.forFile file ≠ []) ∧
      ds.flatten = ds.files.flatMap ds.forFile ∧
      ds.flatten.Perm added ∧
      (∀ file, ds.flatten.filter (·.file = file) = added.filter (·.file = file)) ∧
      ds.size = added.length ∧
      ds.size = ds.count .error + ds.count .warning ∧
      ds.groups = ds.files.map (fun file => (file, ds.forFile file)) ∧
      ds.toValue = .map (ds.files.map fun file => (file, .list ((ds.forFile file).map Diagnostic.toValue))) := by
  intro ds
  have hgroups : ds.groups = ds.files.map fun file => (file, ds.forFile file) := groups_eq_files added
  refine ⟨files_ofList added, forFile_ofList added, contains_ofList_iff added, flatten_eq_files added,
    flatten_ofList_perm added, filter_flatten_ofList added, ?_, (count_add_count ds).symm, hgroups, ?_⟩
  · rw [size_eq, (flatten_ofList_perm added).length_eq]
  · rw [toValue, hgroups, List.map_map]
    rfl

end Diagnostics

end ContractBuild
