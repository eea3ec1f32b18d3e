import ContractBuild.Proofs.Paths

/-!
# Normal forms of absolute paths

The normal form of an absolute path is a root, of one slash or of two, with steps behind it (`Path.normal_normalize`). No
step is empty, a dot or a double dot (`Path.Step`). Paths of this form are their own normal forms
(`Path.Normal.normalize_eq`).

* `Path.push`: what one segment makes of the way so far. A way is followed segment by segment
  (`Path.resolveFrom_eq_foldl`).
* `Path.endsWith_normalize`: the last step of a path stays, with its extension.
-/

namespace ContractBuild.Path

variable {p base ext s : Text} {done segs steps : List Text}

/-! ## Steps -/

/-- A step of a way: it is not empty, no dot, no double dot, and there is no slash in it. -/
structure Step (s : Text) : Prop where
  ne_nil : s ≠ []
  ne_dot : s ≠ "."
  ne_up : s ≠ ".."
  slash_not_mem : slash ∉ s

theorem Step.isName (h : Step s) : isName s = true := by simp [Path.isName, h.ne_nil, h.ne_dot]

/-- What a double dot makes of the segments so far, the last one first. -/
def up (rooted : Bool) : List Text → List Text
  | [] => if rooted then [] else [".."]
  | d :: done => if d = ".." then ".." :: d :: done else done

/-- What a segment makes of the segments so far, the last one first. -/
def push (rooted : Bool) (done : List Text) (s : Text) : List Text :=
  if isName s = false then done else if s = ".." then up rooted done else s :: done

theorem resolveFrom_eq_foldl (rooted : Bool) (done segs : List Text) :
    resolveFrom rooted done segs = (segs.foldl (push rooted) done).reverse := by
  induction segs generalizing done with
  | nil => rw [resolveFrom, List.foldl_nil]
  | cons s segs ih =>
    rw [List.foldl_cons, ← ih, resolveFrom.eq_def, push]
    dsimp only
    rw [skipped_eq]
    cases isName s with
    | false => rfl
    | true =>
      rw [if_neg (by decide : ¬ (!true) = true), if_neg (by decide : ¬ true = false)]
      by_cases hup : s = ".."
      · subst hup
        rw [if_pos rfl, if_pos rfl]
        cases done with
        | nil => cases rooted <;> rfl
        | cons d done => rw [up]; dsimp only; split <;> rfl
      · rw [if_neg hup, if_neg hup]

theorem push_of_not_isName (h : isName s = false) (rooted : Bool) (done : List Text) : push rooted done s = done :=
  if_pos h

theorem push_of_step (h : Step s) (rooted : Bool) (done : List Text) : push rooted done s = s :: done := by
  rw [push, if_neg (by rw [h.isName]; decide), if_neg h.ne_up]

/-- From the root, a double dot takes back the step before it, if there is one. -/
theorem push_up (h : ∀ s ∈ done, Step s) : push true done ".." = done.tail := by
  cases done with
  | nil => rfl
  | cons d done =>
    have hd : d ≠ ".." := (h d List.mem_cons_self).ne_up
    rw [push, if_neg (by decide), if_pos rfl, up, if_neg hd, List.tail_cons]

/-- **One segment** keeps a way from the root one of steps. -/
theorem steps_push (hdone : ∀ s ∈ done, Step s) (hs : slash ∉ s) : ∀ t ∈ push true done s, Step t := by
  cases hname : isName s with
  | false => rwa [push_of_not_isName hname]
  | true =>
    by_cases hup : s = ".."
    · rw [hup, push_up hdone]
      exact fun t ht => hdone t (List.mem_of_mem_tail ht)
    · have hstep : Step s := by
        rw [isName, Bool.and_eq_true, decide_eq_true_eq, decide_eq_true_eq] at hname
        exact ⟨hname.1, hname.2, hup, hs⟩
      rw [push_of_step hstep]
      exact List.forall_mem_cons.2 ⟨hstep, hdone⟩

/-- **A way from the root** is one of steps. -/
theorem steps_foldl_push (hdone : ∀ s ∈ done, Step s) (hsegs : ∀ s ∈ segs, slash ∉ s) :
    ∀ t ∈ segs.foldl (push true) done, Step t := by
  induction segs generalizing done with
  | nil => exact hdone
  | cons s segs ih =>
    obtain ⟨hs, hrest⟩ := List.forall_mem_cons.1 hsegs
    exact ih (steps_push hdone hs) hrest

/-- Steps are followed one after the other. -/
theorem foldl_push_steps (h : ∀ s ∈ steps, Step s) (rooted : Bool) (done : List Text) :
    steps.foldl (push rooted) done = steps.reverse ++ done := by
  induction steps generalizing done with
  | nil => rfl
  | cons s steps ih =>
    obtain ⟨hs, hrest⟩ := List.forall_mem_cons.1 h
    rw [List.foldl_cons, push_of_step hs, ih hrest, List.reverse_cons, List.append_assoc]
    rfl

/-- Only names make a difference. -/
theorem foldl_push_filter (rooted : Bool) (done segs : List Text) :
    (segs.filter isName).foldl (push rooted) done = segs.foldl (push rooted) done := by
  induction segs generalizing done with
  | nil => rfl
  | cons s segs ih =>
    cases hname : isName s with
    | false =>
      rw [List.filter_cons_of_neg (by rw [hname]; exact Bool.false_ne_true), ih, List.foldl_cons,
        push_of_not_isName hname]
    | true => rw [List.filter_cons_of_pos hname, List.foldl_cons, List.foldl_cons, ih]

/-- The segments of an absolute path are the way along its names. -/
theorem segments_eq_foldl (h : isAbsolute p = true) : segments p = ((names p).foldl (push true) []).reverse := by
  rw [segments, h, resolveFrom_eq_foldl, names, foldl_push_filter]

theorem steps_segments (h : isAbsolute p = true) : ∀ s ∈ segments p, Step s := by
  intro s hs
  rw [segments_eq_foldl h, List.mem_reverse] at hs
  refine steps_foldl_push (by simp) (fun t ht => ?_) s hs
  exact Text.not_mem_of_mem_splitOn (List.mem_filter.1 ht).1

/-! ## Paths of steps -/

/-- An absolute path in normal form: a root of one slash or two, and steps with one slash between neighbours. -/
structure Normal (root : Text) (steps : List Text) (p : Text) : Prop where
  eq_append : p = root ++ ofSegments steps
  root_eq : root = "/" ∨ root = "//"
  step : ∀ s ∈ steps, Step s

/-- Exactly two slashes at the start are a root of their own. -/
theorem root_slash (q : Text) : root (slash :: q) = if isAbsolute q && !isAbsolute q.tail then "//" else "/" := by
  have htwo : ("//" : Text) = [slash, slash] := rfl
  have hthree : ("///" : Text) = [slash, slash, slash] := rfl
  rw [root, htwo, hthree]
  cases q with
  | nil => rfl
  | cons c q =>
    by_cases hc : c = slash
    · subst hc
      cases q with
      | nil => rfl
      | cons d q => by_cases hd : d = slash <;> simp [isAbsolute, Text.startsWith, Text.dropPrefix?, hd, htwo]
    · simp [isAbsolute, Text.startsWith, Text.dropPrefix?, hc]

theorem root_of_isAbsolute (h : isAbsolute p = true) : root p = "/" ∨ root p = "//" := by
  rw [root, h]
  split
  · contradiction
  · split
    · exact .inr rfl
    · exact .inl rfl

theorem splitOn_ofSegments (h : ∀ s ∈ steps, slash ∉ s) (hne : steps ≠ []) :
    (ofSegments steps).splitOn slash = steps :=
  List.splitOn_intercalate slash h hne

theorem isAbsolute_ofSegments (h : ∀ s ∈ steps, s ≠ [] ∧ slash ∉ s) : isAbsolute (ofSegments steps) = false := by
  by_contra habsolute
  rw [Bool.not_eq_false] at habsolute
  obtain ⟨q, hq⟩ : ∃ q, ofSegments steps = slash :: q := by
    obtain ⟨c, q, hcons⟩ := List.exists_cons_of_ne_nil (ne_nil_of_isAbsolute habsolute)
    rw [hcons, isAbsolute, List.head?_cons, decide_eq_true_eq, Option.some.injEq] at habsolute
    exact ⟨q, habsolute ▸ hcons⟩
  have hne : steps ≠ [] := by
    rintro rfl
    cases hq
  have hsplit : steps = [] :: q.splitOn slash := by
    rw [← splitOn_ofSegments (fun s hs => (h s hs).2) hne, hq]
    exact splitOn_append_slash [] q
  exact (h [] (by rw [hsplit]; exact List.mem_cons_self)).1 rfl

namespace Normal

variable {root : Text}

theorem isAbsolute (h : Normal root steps p) : isAbsolute p = true := by
  rw [h.eq_append]
  rcases h.root_eq with rfl | rfl <;> rfl

/-- The pieces between the slashes of a normal form are its steps, and empty ones at the root. -/
theorem mem_splitOn (h : Normal root steps p) (hs : s ∈ p.splitOn slash) : s = [] ∨ Step s := by
  have hsteps (hs : s ∈ (ofSegments steps).splitOn slash) : s = [] ∨ Step s := by
    by_cases hne : steps = []
    · rw [hne] at hs
      exact .inl (List.mem_singleton.1 hs)
    · rw [splitOn_ofSegments (fun s hs => (h.step s hs).slash_not_mem) hne] at hs
      exact .inr (h.step s hs)
  have hslash {q : Text} (hq : s ∈ q.splitOn slash → s = [] ∨ Step s) (hs : s ∈ (slash :: q).splitOn slash) :
      s = [] ∨ Step s := by
    rw [← List.nil_append (slash :: q), splitOn_append_slash] at hs
    rcases List.mem_append.1 hs with hs | hs
    · exact .inl (List.mem_singleton.1 hs)
    · exact hq hs
  rw [h.eq_append] at hs
  rcases h.root_eq with rfl | rfl
  · exact hslash hsteps hs
  · exact hslash (hslash hsteps) hs

theorem names_eq (h : Normal root steps p) : names p = steps := by
  have hsteps : names (ofSegments steps) = steps :=
    names_ofSegments (fun s hs => (h.step s hs).isName) fun s hs => (h.step s hs).slash_not_mem
  rw [h.eq_append]
  rcases h.root_eq with rfl | rfl
  · exact (names_slash _).trans hsteps
  · exact (names_slash _).trans ((names_slash _).trans hsteps)

theorem parts_eq (h : Normal root steps p) : parts p = steps := by
  rw [← h.names_eq]
  refine List.filter_congr fun s hs => ?_
  rcases h.mem_splitOn hs with rfl | hstep
  · rfl
  · rw [hstep.isName, decide_eq_true hstep.ne_nil]

theorem segments_eq (h : Normal root steps p) : segments p = steps := by
  rw [segments_eq_foldl h.isAbsolute, h.names_eq, foldl_push_steps h.step, List.append_nil, List.reverse_reverse]

theorem root_eq_root (h : Normal root steps p) : Path.root p = root := by
  have hrelative : Path.isAbsolute (ofSegments steps) = false :=
    isAbsolute_ofSegments fun s hs => ⟨(h.step s hs).ne_nil, (h.step s hs).slash_not_mem⟩
  rw [h.eq_append]
  rcases h.root_eq with rfl | rfl
  · refine (root_slash (ofSegments steps)).trans ?_
    rw [hrelative]
    rfl
  · refine (root_slash (slash :: ofSegments steps)).trans ?_
    rw [List.tail_cons, hrelative]
    rfl

end Normal

theorem normalize_of_isAbsolute (h : isAbsolute p = true) : normalize p = root p ++ ofSegments (segments p) := by
  have hne : root p ++ ofSegments (segments p) ≠ [] := by
    rcases root_of_isAbsolute h with hroot | hroot <;> rw [hroot] <;> exact List.cons_ne_nil _ _
  rw [normalize, if_neg (by rwa [List.isEmpty_iff])]

/-- **The normal form** of an absolute path. -/
theorem normal_normalize (h : isAbsolute p = true) : Normal (root p) (segments p) (normalize p) :=
  ⟨normalize_of_isAbsolute h, root_of_isAbsolute h, steps_segments h⟩

/-- A path in normal form is its own normal form. -/
theorem Normal.normalize_eq {root : Text} (h : Normal root steps p) : normalize p = p := by
  rw [normalize_of_isAbsolute h.isAbsolute, h.root_eq_root, h.segments_eq, ← h.eq_append]

/-! ## Base names -/

theorem ofSegments_singleton (s : Text) : ofSegments [s] = s := by
  rw [ofSegments, Text.joinWith, List.intercalate_singleton]

theorem ofSegments_cons_cons (s t : Text) (segs : List Text) :
    ofSegments (s :: t :: segs) = s ++ slash :: ofSegments (t :: segs) := by
  have hcons : ofSegments (s :: t :: segs) = s ++ [slash] ++ ofSegments (t :: segs) := List.intercalate_cons_cons
  rw [hcons, List.append_assoc]
  rfl

theorem ofSegments_concat (hne : segs ≠ []) (s : Text) : ofSegments (segs ++ [s]) = ofSegments segs ++ slash :: s := by
  induction segs with
  | nil => exact absurd rfl hne
  | cons t segs ih =>
    cases segs with
    | nil => rw [List.singleton_append, ofSegments_cons_cons, ofSegments_singleton, ofSegments_singleton]
    | cons u segs =>
      rw [List.cons_append, List.cons_append, ofSegments_cons_cons, ofSegments_cons_cons, List.append_assoc,
        List.cons_append]
      congr 2
      exact ih (List.cons_ne_nil u segs)

theorem exists_splitOn_eq (p : Text) : ∃ before, p.splitOn slash = before ++ [baseName p] := by
  rcases List.eq_nil_or_concat (p.splitOn slash) with h | ⟨before, last, h⟩
  · exact absurd h (List.splitOn_ne_nil slash p)
  · rw [List.concat_eq_append] at h
    refine ⟨before, ?_⟩
    rw [baseName, h, List.getLastD_concat]

theorem slash_not_mem_baseName (p : Text) : slash ∉ baseName p := by
  obtain ⟨before, h⟩ := exists_splitOn_eq p
  exact Text.not_mem_of_mem_splitOn (h ▸ List.mem_append_right before (List.mem_singleton_self _))

theorem baseName_append_slash (stem q : Text) : baseName (stem ++ slash :: q) = baseName q := by
  obtain ⟨before, h⟩ := exists_splitOn_eq q
  rw [baseName, splitOn_append_slash, h, ← List.append_assoc, List.getLastD_concat]

theorem baseName_of_not_mem (h : slash ∉ p) : baseName p = p := by
  rw [baseName, List.splitOn_eq_singleton h]
  rfl

/-- What is before the base name ends in a slash. -/
theorem eq_baseName_or (p : Text) : p = baseName p ∨ ∃ stem, p = stem ++ slash :: baseName p := by
  obtain ⟨before, h⟩ := exists_splitOn_eq p
  have hp : p = ofSegments (before ++ [baseName p]) := by
    rw [← h]
    exact (List.intercalate_splitOn slash).symm
  by_cases hne : before = []
  · left
    rwa [hne, List.nil_append, ofSegments_singleton] at hp
  · right
    rw [ofSegments_concat hne] at hp
    exact ⟨_, hp⟩

/-- An ending without a slash is one of the base name. -/
theorem endsWith_baseName (h : slash ∉ ext) (p : Text) : Text.endsWith (baseName p) ext = Text.endsWith p ext := by
  rw [Bool.eq_iff_iff, Text.endsWith_iff, Text.endsWith_iff]
  rcases eq_baseName_or p with hp | ⟨stem, hp⟩
  · rw [← hp]
  · have hbase : baseName p <:+ p := ⟨stem ++ [slash], by rw [List.append_assoc]; exact hp.symm⟩
    refine ⟨fun hext => hext.trans hbase, fun hext => ?_⟩
    rcases List.suffix_or_suffix_of_suffix hext hbase with hshort | ⟨more, hmore⟩
    · exact hshort
    · -- a longer ending has the slash before the base name in it
      obtain ⟨before, hbefore⟩ := hext
      have hboth : before ++ more ++ baseName p = stem ++ [slash] ++ baseName p := by
        rw [List.append_assoc, hmore, hbefore, List.append_assoc]
        exact hp
      have hsame : before ++ more = stem ++ [slash] := List.append_cancel_right hboth
      rcases List.eq_nil_or_concat more with rfl | ⟨rest, c, rfl⟩
      · rw [← hmore]
        exact List.suffix_rfl
      · rw [List.concat_eq_append, ← List.append_assoc] at hsame
        have hc : c = slash := List.singleton_inj.1 (List.append_inj' hsame rfl).2
        refine absurd ?_ h
        rw [← hmore, hc]
        simp

theorem endsWith_append_slash (h : slash ∉ ext) (stem p : Text) :
    Text.endsWith (stem ++ slash :: p) ext = Text.endsWith p ext := by
  rw [← endsWith_baseName h, baseName_append_slash, endsWith_baseName h]

theorem endsWith_join (h : slash ∉ ext) (hbase : base ≠ []) (p : Text) :
    Text.endsWith (join base p) ext = Text.endsWith p ext := by
  rw [join]
  split
  · rfl
  · split
    · rename_i hlast
      obtain ⟨stem, rfl⟩ : ∃ stem, base = stem ++ [slash] := by
        rcases List.eq_nil_or_concat base with rfl | ⟨stem, c, rfl⟩
        · exact absurd rfl hbase
        · have hc : c = slash := by simpa using hlast
          exact ⟨stem, by rw [List.concat_eq_append, hc]⟩
      rw [List.append_assoc]
      exact endsWith_append_slash h stem p
    · rw [List.append_assoc]
      exact endsWith_append_slash h base p

theorem step_of_endsWith (hs : slash ∉ s) (hext : 2 < ext.length) (h : s.endsWith ext = true) : Step s := by
  have hlength : ext.length ≤ s.length := (Text.endsWith_iff.1 h).length_le
  refine ⟨?_, ?_, ?_, hs⟩
  · rintro rfl
    exact absurd hlength (by rw [List.length_nil]; omega)
  · rintro rfl
    exact absurd hlength (by change ¬ _ ≤ 1; omega)
  · rintro rfl
    exact absurd hlength (by change ¬ _ ≤ 2; omega)

/-- The base name of a path in normal form is its last step. -/
theorem Normal.baseName_eq {root : Text} (h : Normal root (done ++ [s]) p) : baseName p = s := by
  have hs : Step s := h.step s (List.mem_append_right done (List.mem_singleton_self s))
  obtain ⟨stem, hstem⟩ : ∃ stem, p = stem ++ slash :: s := by
    rw [h.eq_append]
    by_cases hdone : done = []
    · rw [hdone, List.nil_append, ofSegments_singleton]
      rcases h.root_eq with rfl | rfl
      · exact ⟨[], rfl⟩
      · exact ⟨[slash], rfl⟩
    · rw [ofSegments_concat hdone, ← List.append_assoc]
      exact ⟨_, rfl⟩
  rw [hstem, baseName_append_slash, baseName_of_not_mem hs.slash_not_mem]

/-- The last step of a path stays when it is normalised. -/
theorem baseName_normalize (h : isAbsolute p = true) (hstep : Step (baseName p)) :
    baseName (normalize p) = baseName p := by
  obtain ⟨before, hsplit⟩ := exists_splitOn_eq p
  have hnormal := normal_normalize h
  rw [segments, h, resolveFrom_eq_foldl, hsplit, List.foldl_concat, push_of_step hstep, List.reverse_cons] at hnormal
  exact hnormal.baseName_eq

/-- **An extension stays** when a path is normalised. -/
theorem endsWith_normalize (h : isAbsolute p = true) (hslash : slash ∉ ext) (hext : 2 < ext.length)
    (hp : Text.endsWith p ext = true) : Text.endsWith (normalize p) ext = true := by
  rw [← endsWith_baseName hslash] at hp
  rw [← endsWith_baseName hslash, baseName_normalize h (step_of_endsWith (slash_not_mem_baseName p) hext hp)]
  exact hp

theorem endsWith_normalize_join (h : isAbsolute base = true) (hslash : slash ∉ ext) (hext : 2 < ext.length)
    (hp : Text.endsWith p ext = true) : Text.endsWith (normalize (join base p)) ext = true := by
  refine endsWith_normalize (isAbsolute_join h p) hslash hext ?_
  rwa [endsWith_join hslash (ne_nil_of_isAbsolute h)]

end ContractBuild.Path
