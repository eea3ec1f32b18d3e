import ContractBuild.CommandLine.Action
import ContractBuild.Proofs.StatusTexts
import ContractBuild.Proofs.Utf8

/-!
# What outputs take

An output takes all calls exactly when it takes all that the screen writes for them
(`Screen.Output.take_fault_iff`), and calls may be asked in one go or in several (`Screen.Output.goOn_take`).

Of a build on the screen, this gives the two ways that it can go (`CommandLine.Action.buildOn_cases`): the output
takes all that is shown, and the build is the one on a screen that takes every call; or it does not, and the build is
given up. A boxed screen is closed in any case (`CommandLine.Action.buildOn_closes`).
-/

namespace ContractBuild

namespace Screen

namespace Output

variable {out : Output} {d : Display} {t u : Text}

theorem takesAll_append : out.TakesAll (t ++ u) ↔ out.TakesAll t ∧ out.TakesAll u := List.forall_mem_append

theorem takesAll_any (t : Text) : any.TakesAll t := fun _ _ => rfl

theorem takesAll_of_isScalar (h : t.isScalar = true) : out.TakesAll t := fun c hc =>
  out.takes_scalar c (Text.isScalar_iff.1 h c hc)

theorem fault?_eq_none_iff : out.fault? t = none ↔ out.TakesAll t := by
  have hstop : t.dropWhile out.takes = [] ↔ out.TakesAll t := List.dropWhile_eq_nil_iff
  rw [← hstop, fault?]
  cases t.dropWhile out.takes with
  | nil => exact iff_of_true rfl rfl
  | cons c rest => exact iff_of_false nofun nofun

/-! ## Calls in order -/

theorem andThen_of_fault {t rest : Taken} (h : t.fault ≠ none) : t.andThen rest = t := by
  obtain ⟨f, hf⟩ := Option.ne_none_iff_exists'.1 h
  rw [Taken.andThen, hf]

theorem andThen_of_no_fault {t rest : Taken} (h : t.fault = none) :
    t.andThen rest = { rest with calls := t.calls ++ rest.calls } := by
  rw [Taken.andThen, h]

theorem andThen_fault_iff {t rest : Taken} : (t.andThen rest).fault = none ↔ t.fault = none ∧ rest.fault = none := by
  by_cases h : t.fault = none
  · rw [andThen_of_no_fault h]
    exact (and_iff_right h).symm
  · rw [andThen_of_fault h]
    exact iff_of_false h fun hboth => h hboth.1

theorem andThen_assoc (t u v : Taken) : (t.andThen u).andThen v = t.andThen (u.andThen v) := by
  unfold Taken.andThen
  cases ht : t.fault <;> cases hu : u.fault <;> simp [ht, hu]

/-- **Calls are all taken** exactly when all is that the screen writes for them. -/
theorem take_fault_iff {cs : List Call} : (out.take d cs).fault = none ↔ out.TakesAll (d.calls out.width cs).1 := by
  induction cs generalizing d with
  | nil => exact iff_of_true rfl nofun
  | cons c cs ih =>
    have hcalls : (d.calls out.width (c :: cs)).1 =
        (d.call out.width c).1 ++ ((d.call out.width c).2.calls out.width cs).1 := rfl
    rw [hcalls, takesAll_append, take, andThen_fault_iff]
    exact and_congr fault?_eq_none_iff ih

/-- Where no call fails, all are asked. -/
theorem take_calls {cs : List Call} (h : (out.take d cs).fault = none) : (out.take d cs).calls = cs := by
  induction cs generalizing d with
  | nil => rfl
  | cons c cs ih =>
    rw [take] at h ⊢
    obtain ⟨hfirst, hrest⟩ := andThen_fault_iff.1 h
    rw [andThen_of_no_fault hfirst]
    exact congrArg (c :: ·) (ih hrest)

/-- Calls may be asked in two steps. -/
theorem goOn_take (before after : List Call) : out.goOn (out.take d before) after = out.take d (before ++ after) := by
  induction before generalizing d with
  | nil => rfl
  | cons c before ih =>
    rw [List.cons_append, take, take, ← ih, goOn, goOn, andThen_assoc]
    by_cases h : (out.ask d c).fault = none
    · simp only [andThen_of_no_fault h]
    · rw [andThen_of_fault h, andThen_of_fault h]

/-- A boxed screen stays one. -/
theorem take_boxed (out : Output) (s : Boxed) (cs : List Call) : ∃ s', (out.take (.boxed s) cs).display = .boxed s' := by
  induction cs generalizing s with
  | nil => exact ⟨s, rfl⟩
  | cons c cs ih =>
    have hfirst : (out.ask (.boxed s) c).display = .boxed (s.call out.width c).2 := rfl
    rw [take, hfirst]
    by_cases h : (out.ask (.boxed s) c).fault = none
    · rw [andThen_of_no_fault h]
      exact ih _
    · rw [andThen_of_fault h]
      exact ⟨_, hfirst⟩

/-- Where no call has failed, closing is going on. -/
theorem close_of_no_fault {taken : Taken} (h : taken.fault = none) (cs : List Call) :
    out.close taken cs = out.goOn taken cs := by
  rw [close, goOn, andThen_of_no_fault h, h, Option.or_none]

theorem close_fault {taken : Taken} (h : taken.fault ≠ none) (cs : List Call) : (out.close taken cs).fault ≠ none :=
  fun hclose => h (Option.or_eq_none_iff.1 hclose).2

/-- One call is asked, whether it fails or not. -/
theorem take_singleton_calls (out : Output) (d : Display) (c : Call) : (out.take d [c]).calls = [c] := by
  rw [take]
  by_cases h : (out.ask d c).fault = none
  · rw [andThen_of_no_fault h]
    rfl
  · rw [andThen_of_fault h]
    rfl

/-- **A boxed screen is closed** between calls, whatever has failed before. -/
theorem exists_closed_boxed (out : Output) (s : Boxed) (body after : List Call) : ∃ before rest,
    (out.goOn (out.close (out.take (.boxed s) body) [.stop, .close]) after).calls =
      before ++ [.stop, .close] ++ rest := by
  obtain ⟨s', hdisplay⟩ := take_boxed out s body
  have hclosing : (out.take (.boxed s') [.stop, .close]).calls = [.stop, .close] := by
    -- a boxed screen writes nothing when a status is stopped
    rw [take, andThen_of_no_fault rfl, take_singleton_calls]
    rfl
  have hclosed : (out.close (out.take (.boxed s) body) [.stop, .close]).calls =
      (out.take (.boxed s) body).calls ++ [.stop, .close] := by
    rw [close, hdisplay, hclosing]
  refine ⟨(out.take (.boxed s) body).calls, ?_⟩
  rw [← hclosed, goOn]
  generalize out.close (out.take (.boxed s) body) [.stop, .close] = closed
  by_cases h : closed.fault = none
  · rw [andThen_of_no_fault h]
    exact ⟨_, rfl⟩
  · rw [andThen_of_fault h]
    exact ⟨[], (List.append_nil _).symm⟩

/-- **Calls with a closing part** are taken like the same calls without one, or one of them fails in both ways. -/
theorem closed_cases (out : Output) (d : Display) (body closing after : List Call) :
    let closed := out.goOn (out.close (out.take d body) closing) after
    let plain := out.take d (body ++ closing ++ after)
    closed = plain ∨ (closed.fault ≠ none ∧ plain.fault ≠ none) := by
  intro closed plain
  have hplain : plain = out.goOn (out.goOn (out.take d body) closing) after := by rw [goOn_take, goOn_take]
  by_cases hbody : (out.take d body).fault = none
  · exact .inl (by rw [hplain, ← close_of_no_fault hbody])
  · have hclosed : closed = _ := andThen_of_fault (close_fault hbody closing)
    rw [goOn, goOn, andThen_of_fault hbody, andThen_of_fault hbody] at hplain
    rw [hclosed, hplain]
    exact .inr ⟨close_fault hbody closing, hbody⟩

end Output

end Screen

/-! ## The status of a build -/

theorem Sink.Progress.statuses_cons (s : Progress) (c : Call) (cs : List Call) :
    s.statuses (c :: cs) = (s.call c).1 ++ (s.call c).2.statuses cs := by
  have hcalls : (s.calls (c :: cs)).1 = (s.perform c).1 ++ ((s.perform c).2.calls cs).1 := rfl
  obtain ⟨-, hstatus, hnext⟩ := s.perform_effects c
  rw [statuses, hcalls, List.filterMap_append, hstatus, hnext, statuses]

namespace CommandLine.Action

variable {out : Screen.Output}

/-- The status follows events by the calls for their status texts. -/
theorem follow_taken (progress : Sink.Progress) (d : Screen.Display) (es : List Cargo.Event) :
    (follow out progress d es).taken = out.take d ((progress.statuses (Cargo.Event.sinkCalls es)).map .update) := by
  induction es generalizing progress d with
  | nil => rfl
  | cons e es ih =>
    have hstatuses : progress.statuses (Cargo.Event.sinkCalls (e :: es)) =
        (tell progress e).1 ++ (tell progress e).2.statuses (Cargo.Event.sinkCalls es) := by
      cases e with
      | sink c => exact progress.statuses_cons c (Cargo.Event.sinkCalls es)
      | log r => rfl
    rw [hstatuses, List.map_append, ← Screen.Output.goOn_take, Screen.Output.goOn, ← ih]
    rfl

/-- Where the status can be shown, all events come to pass. -/
theorem follow_events {progress : Sink.Progress} {d : Screen.Display} {es : List Cargo.Event}
    (h : (follow out progress d es).taken.fault = none) : (follow out progress d es).events = es := by
  induction es generalizing progress d with
  | nil => rfl
  | cons e es ih =>
    obtain ⟨hshown, hrest⟩ := Screen.Output.andThen_fault_iff.1 h
    have hevents : (follow out progress d (e :: es)).events = e :: _ := rfl
    rw [hevents, hshown]
    exact congrArg (e :: ·) (ih hrest)

/-! ## Builds on an output -/

theorem resultOn_eq_error {fault : Option Screen.Fault} (h : fault ≠ none) (result : Except Failure Int) :
    ∃ f, resultOn fault result = .error (.screen f) := by
  obtain ⟨f, rfl⟩ := Option.ne_none_iff_exists'.1 h
  exact ⟨f, rfl⟩

/-- **A build that has been opened** shows all its calls, and is told all its events, or one of the calls fails. -/
theorem follow_close_cases (out : Screen.Output) (d : Screen.Display) (m : Machine) (name : Text)
    (b : Project.Build) :
    let followed := follow out (.start name) d b.events
    let shown := out.goOn (out.close (out.goOn followed.taken (refusals b.result)) closing) (reports m b.result)
    let plain := out.take d (updates name b.events ++ endCalls m b.result)
    (plain.fault = none ∧ shown = plain ∧ followed.events = b.events) ∨ (plain.fault ≠ none ∧ shown.fault ≠ none) := by
  intro followed shown plain
  have htaken : followed.taken = out.take d (updates name b.events) := follow_taken _ _ _
  have hplain : plain = out.take d (updates name b.events ++ refusals b.result ++ closing ++ reports m b.result) := by
    simp only [plain, endCalls, List.append_assoc]
  have hshown := Screen.Output.closed_cases out d (updates name b.events ++ refusals b.result) closing
    (reports m b.result)
  rw [← hplain, ← Screen.Output.goOn_take, ← htaken] at hshown
  obtain hsame | ⟨hfails, hfails'⟩ := hshown
  · by_cases hfault : plain.fault = none
    · have hfollowed : followed.taken.fault = none := by
        rw [hplain, List.append_assoc, List.append_assoc, ← Screen.Output.goOn_take] at hfault
        rw [htaken]
        exact (Screen.Output.andThen_fault_iff.1 hfault).1
      exact .inl ⟨hfault, hsame, follow_events hfollowed⟩
    · exact .inr ⟨hfault, fun h => hfault (hsame ▸ h)⟩
  · exact .inr ⟨hfails', hfails⟩

/-- **A build on an output.** Either the output takes all that the build shows, and the build is that on a screen that
takes every call; or it does not, and the build is given up for a call that failed. -/
theorem buildOn_cases (out : Screen.Output) (m : Machine) (settings : Value) (folder : Text) :
    let plain := buildOnScreen m settings folder
    let text := Screen.shown out.width plain.screen plain.calls
    (out.TakesAll text ∧ buildOn out m settings folder = plain) ∨
      (¬ out.TakesAll text ∧ ∃ f, (buildOn out m settings folder).result = .error (.screen f)) := by
  unfold buildOnScreen buildOn
  cases Screen.chooseForCommand settings with
  | error e => exact .inl ⟨nofun, rfl⟩
  | ok chosen =>
    obtain ⟨kind, records⟩ := chosen
    dsimp only
    have htext (cs : List Screen.Call) : out.TakesAll (Screen.shown out.width (some kind) cs) ↔
        (out.take (.start kind) cs).fault = none := Screen.Output.take_fault_iff.symm
    have hbehind (cs : List Screen.Call) : (out.take (.start kind) (opening m folder :: cs)).fault = none ↔
        (out.take (.start kind) [opening m folder]).fault = none ∧
          (out.take (out.take (.start kind) [opening m folder]).display cs).fault = none := by
      rw [← List.singleton_append, ← Screen.Output.goOn_take]
      exact Screen.Output.andThen_fault_iff
    by_cases hopened : (out.take (.start kind) [opening m folder]).fault = none
    · have hcalls := Screen.Output.take_calls hopened
      rw [hopened, hcalls]
      cases Cargo.forCommand settings with
      | error e => exact .inl ⟨(htext _).2 hopened, rfl⟩
      | ok cargo =>
        dsimp only
        rw [htext, List.cons_append, hbehind, and_iff_right hopened]
        obtain ⟨hfault, hshown, hevents⟩ | ⟨hfault, hfails⟩ := follow_close_cases out
          (out.take (.start kind) [opening m folder]).display m (label m folder) (Project.build m folder (cargo.build m))
        · refine .inl ⟨hfault, ?_⟩
          rw [hshown, hfault, hevents, Screen.Output.take_calls hfault]
          rfl
        · exact .inr ⟨hfault, resultOn_eq_error hfails _⟩
    · -- the status cannot be shown, whatever comes behind it
      obtain ⟨f, hf⟩ := Option.ne_none_iff_exists'.1 hopened
      rw [hf]
      refine .inr ⟨?_, f, rfl⟩
      cases Cargo.forCommand settings with
      | error e => exact mt (htext _).1 hopened
      | ok cargo => exact fun h => hopened ((hbehind _).1 ((htext _).1 h)).1

/-- **A boxed screen is closed** behind every build that has begun, also where something of it cannot be shown. -/
theorem buildOn_closes (out : Screen.Output) (m : Machine) {settings : Value} (folder : Text) {columns : Nat}
    {chosen : List Log.Record} (hscreen : Screen.chooseForCommand settings = .ok (.boxed columns, chosen)) {cargo : Cargo}
    (hsystem : Cargo.forCommand settings = .ok cargo) :
    ∃ before after, (buildOn out m settings folder).calls = before ++ closing ++ after := by
  -- a boxed screen writes nothing for a status, so that nothing has failed when the build begins
  have hopened : out.take (.start (.boxed columns)) [opening m folder] =
      ⟨[opening m folder], .boxed { Screen.Boxed.start with started := true }, none⟩ := rfl
  rw [buildOn, hscreen, hsystem]
  dsimp only
  rw [hopened]
  dsimp only
  rw [follow_taken, Screen.Output.goOn_take]
  obtain ⟨before, after, hclosed⟩ := Screen.Output.exists_closed_boxed out { Screen.Boxed.start with started := true }
    (updates (label m folder) (Project.build m folder (cargo.build m)).events ++
      refusals (Project.build m folder (cargo.build m)).result)
    (reports m (Project.build m folder (cargo.build m)).result)
  exact ⟨opening m folder :: before, after, congrArg (opening m folder :: ·) hclosed⟩

/-- On an output that takes every text, a build is that on a screen that takes every call. -/
theorem buildOn_any (m : Machine) (settings : Value) (folder : Text) :
    buildOn .any m settings folder = buildOnScreen m settings folder := by
  obtain ⟨-, hplain⟩ | ⟨hrefused, -⟩ := buildOn_cases .any m settings folder
  · exact hplain
  · exact absurd (Screen.Output.takesAll_any _) hrefused

end CommandLine.Action

end ContractBuild
