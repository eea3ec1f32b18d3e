import ContractBuild.Proofs.ExitStatus
import ContractBuild.Proofs.Presentation

/-!
# When the status of a build is stopped

A build on the screen has a status while cargo runs. Nothing of the result should be shown before the status is stopped
(`Screen.StopsFirst`). A report is shown after that, whatever cargo does, and so it is when the build is given up. But
what a folder that is no project is answered with is shown while the status is still there, and a status that was shown
before the settings turned out to be unusable is never stopped (`CommandLine.Action.callsOf_buildOnScreen`).

`CommandLine.Action.buildOnScreen_stopsFirst_iff` says which builds stop their status first, and which close the screen.
-/

namespace ContractBuild

namespace Screen

/-- Whether a call shows something of a result. -/
def Call.reports : Call → Bool
  | .log _ _ | .table _ _ | .addRow _ | .render | .panel _ _ _ _ => true
  | .status _ | .update _ | .stop | .close => false

/-- The status is stopped, and nothing of a result is shown before. -/
def StopsFirst (calls : List Call) : Prop :=
  ∃ before after, calls = before ++ .stop :: after ∧ ∀ c ∈ before, c.reports = false

/-- A call of a result is shown behind a call that stops the status. -/
theorem StopsFirst.exists_stop_before {calls : List Call} (h : StopsFirst calls) {before after : List Call} {c : Call}
    (hcalls : calls = before ++ c :: after) (hc : c.reports = true) : .stop ∈ before := by
  obtain ⟨quiet, rest, hsplit, hquiet⟩ := h
  rw [hcalls] at hsplit
  obtain ⟨more, rfl, htail⟩ | ⟨more, rfl, htail⟩ := List.append_eq_append_iff.1 hsplit
  · -- the call would stand among the quiet ones, or be the stop itself
    cases more with
    | nil =>
      obtain ⟨rfl, -⟩ := List.cons.inj htail
      cases hc
    | cons d more =>
      obtain ⟨rfl, -⟩ := List.cons.inj htail
      have hfalse := hquiet c (List.mem_append_right before List.mem_cons_self)
      rw [hc] at hfalse
      cases hfalse
  · cases more with
    | nil =>
      obtain ⟨rfl, -⟩ := List.cons.inj htail
      cases hc
    | cons d more =>
      obtain ⟨rfl, -⟩ := List.cons.inj htail
      exact List.mem_append_right quiet List.mem_cons_self

/-- Where something is shown before the first stop, the status is not stopped first. -/
theorem not_stopsFirst (before : List Call) {after : List Call} {c : Call} (hbefore : .stop ∉ before)
    (hc : c.reports = true) : ¬ StopsFirst (before ++ c :: after) :=
  fun h => hbefore (h.exists_stop_before rfl hc)

/-- The settings give a screen to a command. -/
def Given (settings : Value) : Prop := ∃ chosen, chooseForCommand settings = .ok chosen

end Screen

/-- The settings give a build system to a command. -/
def Cargo.Given (settings : Value) : Prop := ∃ cargo, forCommand settings = .ok cargo

/-- All calls of a report show something of it. -/
theorem Report.reports_of_mem_calls {r : Report} {cwd : Text} {c : Screen.Call} (h : c ∈ r.calls cwd) :
    c.reports = true := by
  rw [calls, List.mem_append, List.mem_append, List.mem_singleton] at h
  rcases h with (htable | hnotice) | rfl
  · rw [tableCalls] at htable
    split at htable
    · cases htable
    · rw [List.cons_append, List.mem_cons, List.mem_append, List.mem_flatMap, List.mem_singleton] at htable
      rcases htable with rfl | ⟨g, -, hrow⟩ | rfl
      · rfl
      · obtain ⟨d, -, rfl⟩ := List.mem_map.1 hrow
        rfl
      · rfl
  · rw [toolchainCalls] at hnotice
    split at hnotice
    · cases hnotice
    · rw [List.mem_singleton.1 hnotice]
      rfl
  · obtain ⟨words, title, colour, -, hpanel⟩ := panel_eq r.outcome
    rw [hpanel]
    rfl

namespace CommandLine.Action

/-- **The calls of a build on the screen**, by how far it gets: there is no screen, no build system, or no project; it is
given up; or it is reported. -/
inductive CallsOf (m : Machine) (settings : Value) (folder : Text) : List Screen.Call → Prop
  | unopened (screen : ¬ Screen.Given settings) : CallsOf m settings folder []
  | unequipped (screen : Screen.Given settings) (system : ¬ Cargo.Given settings) :
    CallsOf m settings folder [opening m folder]
  | refused (screen : Screen.Given settings) (system : Cargo.Given settings) {e : Project.Invalid}
      (project : Project.locate m folder = .error e) :
    CallsOf m settings folder [opening m folder, refusal e, .stop, .close]
  | ended (screen : Screen.Given settings) (system : Cargo.Given settings) (project : LeadsToProject m folder)
      (texts : List Text) {reported : List Screen.Call} (reports : ∀ c ∈ reported, c.reports = true) :
    CallsOf m settings folder (opening m folder :: texts.map .update ++ .stop :: .close :: reported)

theorem callsOf_buildOnScreen (m : Machine) (settings : Value) (folder : Text) :
    CallsOf m settings folder (buildOnScreen m settings folder).calls := by
  unfold buildOnScreen
  cases hscreen : Screen.chooseForCommand settings with
  | error e =>
    refine .unopened ?_
    rintro ⟨chosen, h⟩
    rw [hscreen] at h
    cases h
  | ok chosen =>
    dsimp only
    have hopen : Screen.Given settings := ⟨chosen, hscreen⟩
    cases hsystem : Cargo.forCommand settings with
    | error e =>
      refine .unequipped hopen ?_
      rintro ⟨cargo, h⟩
      rw [hsystem] at h
      cases h
    | ok cargo =>
      have hequipped : Cargo.Given settings := ⟨cargo, hsystem⟩
      dsimp only
      by_cases hproject : LeadsToProject m folder
      · have hended (b : Project.Build) (reported : List Screen.Call)
            (hend : endCalls m b.result = .stop :: .close :: reported) (hreports : ∀ c ∈ reported, c.reports = true) :
            CallsOf m settings folder (opening m folder :: updates (label m folder) b.events ++ endCalls m b.result) := by
          rw [hend]
          exact .ended hopen hequipped hproject _ hreports
        unfold Project.build
        rw [locate_of_project hproject]
        dsimp only
        cases (cargo.build m (Path.absolute m.cwd folder)).result with
        | error e => exact hended ⟨.failed e, _, _⟩ [] rfl nofun
        | ok o => exact hended ⟨.built _, _, _⟩ _ rfl fun c hc => Report.reports_of_mem_calls hc
      · obtain ⟨e, he⟩ := locate_of_no_project hproject
        unfold Project.build
        rw [he]
        exact .refused hopen hequipped he

theorem locate_ne_error {m : Machine} {folder : Text} (h : LeadsToProject m folder) (e : Project.Invalid) :
    Project.locate m folder ≠ .error e := by
  rw [locate_of_project h]
  nofun

theorem CallsOf.stopsFirst_iff {m : Machine} {settings : Value} {folder : Text} {calls : List Screen.Call}
    (h : CallsOf m settings folder calls) :
    Screen.StopsFirst calls ↔ Screen.Given settings ∧ Cargo.Given settings ∧ LeadsToProject m folder := by
  cases h with
  | unopened screen =>
    refine iff_of_false ?_ fun hall => screen hall.1
    rintro ⟨before, after, hcalls, -⟩
    exact absurd hcalls.symm (List.append_ne_nil_of_right_ne_nil before (List.cons_ne_nil _ after))
  | unequipped screen system =>
    refine iff_of_false ?_ fun hall => system hall.2.1
    rintro ⟨before, after, hcalls, -⟩
    have hstop : Screen.Call.stop ∈ [opening m folder] := by
      rw [hcalls]
      exact List.mem_append_right before List.mem_cons_self
    cases List.mem_singleton.1 hstop
  | refused screen system project =>
    refine iff_of_false ?_ fun hall => locate_ne_error hall.2.2 _ project
    exact Screen.not_stopsFirst [opening m folder] (by simp [opening]) rfl
  | ended screen system project texts reports =>
    refine iff_of_true ⟨_, _, rfl, ?_⟩ ⟨screen, system, project⟩
    intro c hc
    rcases List.mem_cons.1 hc with rfl | hc
    · rfl
    · obtain ⟨t, -, rfl⟩ := List.mem_map.1 hc
      rfl

theorem CallsOf.close_mem_iff {m : Machine} {settings : Value} {folder : Text} {calls : List Screen.Call}
    (h : CallsOf m settings folder calls) : .close ∈ calls ↔ Screen.Given settings ∧ Cargo.Given settings := by
  cases h with
  | unopened screen => exact iff_of_false List.not_mem_nil fun hall => screen hall.1
  | unequipped screen system => exact iff_of_false (by simp [opening]) fun hall => system hall.2
  | refused screen system _ => exact iff_of_true (by simp) ⟨screen, system⟩
  | ended screen system _ _ _ => exact iff_of_true (by simp) ⟨screen, system⟩

theorem CallsOf.status_mem_iff {m : Machine} {settings : Value} {folder : Text} {calls : List Screen.Call}
    (h : CallsOf m settings folder calls) : opening m folder ∈ calls ↔ Screen.Given settings := by
  cases h with
  | unopened screen => exact iff_of_false List.not_mem_nil screen
  | unequipped screen _ | refused screen _ _ | ended screen _ _ _ _ => exact iff_of_true List.mem_cons_self screen

theorem CallsOf.eq_refusal {m : Machine} {settings : Value} {folder : Text} {calls : List Screen.Call}
    (h : CallsOf m settings folder calls) (hscreen : Screen.Given settings) (hsystem : Cargo.Given settings)
    {e : Project.Invalid} (he : Project.locate m folder = .error e) :
    calls = [opening m folder, refusal e, .stop, .close] := by
  cases h with
  | unopened screen => exact absurd hscreen screen
  | unequipped _ system => exact absurd hsystem system
  | refused _ _ project =>
    rw [he] at project
    obtain rfl := Except.error.inj project
    rfl
  | ended _ _ project => exact absurd he (locate_ne_error project e)

/-- **The status of a build on the screen**, for any machine, settings and folder. It is shown exactly when the settings
give a screen. It is stopped, and before anything of the result is shown, exactly when they also give a build system and
the folder leads to a project; so it is whatever cargo does, and when the build is given up. The screen is closed whenever
there are a screen and a build system. A folder that leads to no project is answered before the status is stopped. -/
theorem buildOnScreen_stopsFirst_iff (m : Machine) (settings : Value) (folder : Text) :
    let calls := (buildOnScreen m settings folder).calls
    (opening m folder ∈ calls ↔ Screen.Given settings) ∧
    (Screen.StopsFirst calls ↔ Screen.Given settings ∧ Cargo.Given settings ∧ LeadsToProject m folder) ∧
    (.close ∈ calls ↔ Screen.Given settings ∧ Cargo.Given settings) ∧
    ∀ e, Screen.Given settings → Cargo.Given settings → Project.locate m folder = .error e →
      calls = [opening m folder, refusal e, .stop, .close] := by
  intro calls
  have h : CallsOf m settings folder calls := callsOf_buildOnScreen m settings folder
  exact ⟨h.status_mem_iff, h.stopsFirst_iff, h.close_mem_iff, fun e hscreen hsystem he => h.eq_refusal hscreen hsystem he⟩

/-- With the built-in settings and no cargo, the status of the build of a project is stopped first, and a folder that is
not there is answered in four calls. -/
theorem buildOnScreen_stopsFirst_unequipped :
    Screen.Given (.map Settings.defaults) ∧ Cargo.Given (.map Settings.defaults) ∧ LeadsToProject unequipped "/p" ∧
      Screen.StopsFirst (buildOnScreen unequipped (.map Settings.defaults) "/p").calls ∧
      ∃ e, Project.locate unequipped "missing" = .error e ∧
        (buildOnScreen unequipped (.map Settings.defaults) "missing").calls =
          [opening unequipped "missing", refusal e, .stop, .close] := by
  have hscreen : Screen.Given (.map Settings.defaults) := ⟨_, rfl⟩
  have hsystem : Cargo.Given (.map Settings.defaults) := ⟨_, rfl⟩
  have hproject : LeadsToProject unequipped "/p" := ⟨by decide +kernel, by decide +kernel⟩
  obtain ⟨-, hfirst, -, -⟩ := buildOnScreen_stopsFirst_iff unequipped (.map Settings.defaults) "/p"
  obtain ⟨-, -, -, hrefused⟩ := buildOnScreen_stopsFirst_iff unequipped (.map Settings.defaults) "missing"
  exact ⟨hscreen, hsystem, hproject, hfirst.2 ⟨hscreen, hsystem, hproject⟩, _, rfl, hrefused _ hscreen hsystem rfl⟩

/-- With the built-in settings, a folder that is not there is answered while the status is shown. -/
theorem not_stopsFirst_missing :
    (buildOnScreen unequipped (.map Settings.defaults) "missing").calls =
        [.status "Building missing...",
          .log "Invalid contract folder: /p/missing: folder does not exist" .error, .stop, .close] ∧
      ¬ Screen.StopsFirst (buildOnScreen unequipped (.map Settings.defaults) "missing").calls := by
  have hcalls : (buildOnScreen unequipped (.map Settings.defaults) "missing").calls =
      [.status "Building missing...",
        .log "Invalid contract folder: /p/missing: folder does not exist" .error, .stop, .close] := rfl
  refine ⟨hcalls, ?_⟩
  rw [hcalls]
  exact Screen.not_stopsFirst [.status "Building missing..."] (by simp) rfl

end CommandLine.Action

end ContractBuild
