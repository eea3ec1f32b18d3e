import ContractBuild.Proofs.NormalForms

/-!
# The way from one path to another

`Path.relative` leads from one absolute path to another: up to what both have in common, a double dot for each step that
only the first has, and down again along the steps that only the second has (`Path.exists_relative_eq`). Following this way
takes back the steps of the first one by one (`Path.foldl_push_ups`) and ends where the second leads
(`Path.segments_join_relative`), be it inside the first, beside it or above it.
-/

namespace ContractBuild.Path

variable {p start : Text} {done steps : List Text}

theorem exists_dropCommon_eq (as bs : List Text) :
    ∃ common, as = common ++ (dropCommon as bs).1 ∧ bs = common ++ (dropCommon as bs).2 := by
  induction as generalizing bs with
  | nil => exact ⟨[], rfl, rfl⟩
  | cons a as ih =>
    cases bs with
    | nil => exact ⟨[], rfl, rfl⟩
    | cons b bs =>
      rw [dropCommon]
      by_cases h : a = b
      · obtain ⟨common, has, hbs⟩ := ih bs
        rw [if_pos h]
        exact ⟨a :: common, congrArg (a :: ·) has, h ▸ congrArg (a :: ·) hbs⟩
      · rw [if_neg h]
        exact ⟨[], rfl, rfl⟩

/-- Double dots, one behind the other. -/
def ups (n : Nat) : List Text := List.replicate n ("..": Text)

/-- **Going up** takes back one step for each double dot. -/
theorem foldl_push_ups (h : ∀ s ∈ steps ++ done, Step s) :
    (ups steps.length).foldl (push true) (steps ++ done) = done := by
  induction steps with
  | nil => rfl
  | cons s steps ih =>
    rw [List.length_cons, ups, List.replicate_succ, List.foldl_cons, push_up h, List.cons_append, List.tail_cons]
    exact ih fun t ht => h t (List.mem_cons_of_mem s ht)

/-- The parts of a normal form are the segments of the path. -/
theorem parts_normalize (h : isAbsolute p = true) : parts (normalize p) = segments p :=
  (normal_normalize h).parts_eq

/-- Ups and steps are a relative path, and they are its names. -/
theorem ofSegments_ups (n : Nat) (h : ∀ s ∈ steps, Step s) :
    isAbsolute (ofSegments (ups n ++ steps)) = false ∧ names (ofSegments (ups n ++ steps)) = ups n ++ steps := by
  have hup : isName ("..": Text) = true ∧ slash ∉ (".." : Text) := by decide
  have hall (s) (hs : s ∈ ups n ++ steps) : isName s = true ∧ slash ∉ s := by
    rcases List.mem_append.1 hs with hs | hs
    · rw [List.eq_of_mem_replicate hs]
      exact hup
    · exact ⟨(h s hs).isName, (h s hs).slash_not_mem⟩
  refine ⟨isAbsolute_ofSegments fun s hs => ⟨?_, (hall s hs).2⟩,
    names_ofSegments (fun s hs => (hall s hs).1) fun s hs => (hall s hs).2⟩
  rintro rfl
  cases (hall [] hs).1

/-- **The way** from one absolute path to another is a relative path: it goes up from the steps that only the first has, and
down along those that only the second has. -/
theorem exists_relative_eq (hstart : isAbsolute start = true) (hp : isAbsolute p = true) (cwd : Text) :
    ∃ common up down, segments start = common ++ up ∧ segments p = common ++ down ∧
      isAbsolute (relative cwd start p) = false ∧ names (relative cwd start p) = ups up.length ++ down := by
  have hstartParts : parts (absolute cwd start) = segments start := by
    rw [absolute, join_of_isAbsolute hstart, parts_normalize hstart]
  have hpParts : parts (absolute cwd p) = segments p := by
    rw [absolute, join_of_isAbsolute hp, parts_normalize hp]
  obtain ⟨common, hup, hdown⟩ := exists_dropCommon_eq (segments start) (segments p)
  have hsteps (s) (hs : s ∈ (dropCommon (segments start) (segments p)).2) : Step s :=
    steps_segments hp s (by rw [hdown]; exact List.mem_append_right common hs)
  refine ⟨common, _, _, hup, hdown, ?_⟩
  rw [relative, hstartParts, hpParts]
  dsimp only
  rw [List.map_const', ← ups]
  split
  · -- one path is the other, and the way is a dot
    rename_i hempty
    rw [List.isEmpty_iff.1 hempty]
    exact ⟨rfl, rfl⟩
  · exact ofSegments_ups _ hsteps

/-- **Following the way** from one absolute path to another leads to the other. -/
theorem segments_join_relative (hstart : isAbsolute start = true) (hp : isAbsolute p = true) (cwd : Text) :
    segments (join start (relative cwd start p)) = segments p := by
  obtain ⟨common, up, down, hup, hdown, hrelative, hnames⟩ := exists_relative_eq hstart hp cwd
  have hfirst : (names start).foldl (push true) [] = up.reverse ++ common.reverse := by
    rw [← List.reverse_append, ← hup, segments_eq_foldl hstart, List.reverse_reverse]
  have hstepsUp : ∀ s ∈ up.reverse ++ common.reverse, Step s := by
    intro s hs
    rw [← List.reverse_append, ← hup, List.mem_reverse] at hs
    exact steps_segments hstart s hs
  have hstepsDown : ∀ s ∈ down, Step s := fun s hs =>
    steps_segments hp s (by rw [hdown]; exact List.mem_append_right common hs)
  rw [segments_eq_foldl (isAbsolute_join hstart _), names_join hrelative, hnames, List.foldl_append, List.foldl_append,
    hfirst, ← List.length_reverse, foldl_push_ups hstepsUp, foldl_push_steps hstepsDown, List.reverse_append,
    List.reverse_reverse, List.reverse_reverse, ← hdown]

end ContractBuild.Path
