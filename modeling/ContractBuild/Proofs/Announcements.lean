import ContractBuild.Artifact
import ContractBuild.Proofs.Schedules

/-!
# Builds that announce a contract

`Message.Announces` says in terms of the document what a message has to be for the contract to be found in it
(`Artifact.resolve_isSome_iff`). A build whose program has started gives an outcome exactly when no line of standard
output stops it (`Cargo.build_completes_iff`). That outcome is ready to deploy exactly when the program has succeeded
and some line of standard output announces a contract (`Cargo.build_ready_iff`).
-/

namespace ContractBuild

/-! ## Messages -/

namespace Message

/-- A message announces a contract: it is about a produced artifact, its target is a `cdylib`, and one of its files ends
in `.wasm`. -/
structure Announces (m : Message) : Prop where
  produced : m.kind = .artifactProduced
  target : ∃ target kinds, m.field? "target" = some (.map target) ∧
    Value.entry? "kind" target = some (.list kinds) ∧ .text "cdylib" ∈ kinds
  file : ∃ files name, m.field? "filenames" = some (.list files) ∧ .text name ∈ files ∧ name.endsWith ".wasm" = true

end Message

namespace Artifact

theorem isText_iff {t : Text} {v : Value} : isText t v = true ↔ v = .text t := by
  cases v <;> simp [isText]

theorem mem_targetKinds_iff {m : Message} {v : Value} :
    v ∈ targetKinds m ↔ ∃ target kinds, m.field? "target" = some (.map target) ∧
      Value.entry? "kind" target = some (.list kinds) ∧ v ∈ kinds := by
  unfold targetKinds
  split
  · rename_i target htarget
    split
    · rename_i kinds hkinds
      simp [htarget, hkinds]
    · rename_i hkinds
      refine iff_of_false List.not_mem_nil ?_
      rintro ⟨target', kinds, htarget', hkind, -⟩
      rw [htarget, Option.some.injEq, Value.map.injEq] at htarget'
      exact hkinds kinds (htarget' ▸ hkind)
  · rename_i htarget
    refine iff_of_false List.not_mem_nil ?_
    rintro ⟨target, kinds, htarget', -⟩
    exact htarget target htarget'

theorem text?_eq_some_iff {v : Value} {t : Text} : v.text? = some t ↔ v = .text t := by
  cases v <;> simp [Value.text?]

theorem mem_fileNames_iff {m : Message} {name : Text} :
    name ∈ fileNames m ↔ ∃ files, m.field? "filenames" = some (.list files) ∧ .text name ∈ files := by
  unfold fileNames
  split
  · rename_i files hfiles
    simp [hfiles, text?_eq_some_iff]
  · rename_i hfiles
    refine iff_of_false List.not_mem_nil ?_
    rintro ⟨files, hfiles', -⟩
    exact hfiles files hfiles'

/-- A file with the ending of contracts has a name. -/
theorem ne_nil_of_endsWith {name : Text} (h : name.endsWith contract.extension = true) : name ≠ [] := by
  rintro rfl
  cases h

/-- A contract is found in a message exactly when the message announces one. -/
theorem candidate?_isSome_iff {m : Message} : (candidate? contract m).isSome = true ↔ m.Announces := by
  have hkinds : (targetKinds m).any (isText contract.targetKind) = true ↔ .text "cdylib" ∈ targetKinds m := by
    simp only [List.any_eq_true, isText_iff, exists_eq_right]
    rfl
  rw [candidate?]
  constructor
  · intro h
    split at h
    · rename_i hcond
      obtain ⟨hkind, htarget⟩ := Bool.and_eq_true_iff.1 hcond
      rw [List.find?_isSome] at h
      obtain ⟨name, hname, hend⟩ := h
      obtain ⟨files, hfiles, hmem⟩ := mem_fileNames_iff.1 hname
      exact ⟨of_decide_eq_true hkind, mem_targetKinds_iff.1 (hkinds.1 htarget), files, name, hfiles, hmem, hend⟩
    · cases h
  · rintro ⟨hkind, htarget, files, name, hfiles, hmem, hend⟩
    rw [if_pos (Bool.and_eq_true_iff.2 ⟨decide_eq_true hkind, hkinds.2 (mem_targetKinds_iff.2 htarget)⟩),
      List.find?_isSome]
    exact ⟨name, mem_fileNames_iff.2 ⟨files, hfiles, hmem⟩, hend⟩

theorem candidate?_ne_nil {m : Message} {name : Text} (h : candidate? contract m = some name) : name ≠ [] := by
  rw [candidate?] at h
  split at h
  · have hend : name.endsWith contract.extension = true := by simpa using List.find?_some h
    exact ne_nil_of_endsWith hend
  · cases h

/-- The contract is at the last of the names that messages announce. -/
theorem resolve_eq (cwd projectDir : Text) (messages : List Message) :
    resolve contract cwd projectDir messages = (messages.filterMap (candidate? contract)).getLast?.map
      fun name => ⟨Path.absolute cwd (Path.join projectDir name), contract.targetKind⟩ := by
  have hnames : (messages.filterMap (candidate? contract)).filter (· ≠ []) =
      messages.filterMap (candidate? contract) := by
    refine List.filter_eq_self.2 fun name hname => ?_
    obtain ⟨m, -, hm⟩ := List.mem_filterMap.1 hname
    exact decide_eq_true (candidate?_ne_nil hm)
  rw [resolve, hnames]

/-- **A contract is found** exactly when some message announces one. -/
theorem resolve_isSome_iff (cwd projectDir : Text) (messages : List Message) :
    (resolve contract cwd projectDir messages).isSome = true ↔ ∃ m ∈ messages, m.Announces := by
  rw [resolve_eq, Option.isSome_map, List.getLast?_isSome]
  constructor
  · intro hne
    obtain ⟨name, hname⟩ := List.exists_mem_of_ne_nil _ hne
    obtain ⟨m, hm, hcandidate⟩ := List.mem_filterMap.1 hname
    exact ⟨m, hm, candidate?_isSome_iff.1 (by rw [hcandidate]; rfl)⟩
  · rintro ⟨m, hm, hannounces⟩
    obtain ⟨name, hname⟩ := Option.isSome_iff_exists.1 (candidate?_isSome_iff.2 hannounces)
    exact List.ne_nil_of_mem (List.mem_filterMap.2 ⟨m, hm, hname⟩)

end Artifact

/-! ## Lines -/

namespace Reading

/-- The readings of lines are those of each. -/
theorem mem_iff_of_mapM {lines : List Text} {readings : List Reading} (h : lines.mapM ofLine = .ok readings)
    {r : Reading} : r ∈ readings ↔ ∃ line ∈ lines, ofLine line = .ok r := by
  induction lines generalizing readings with
  | nil =>
    cases h
    simp
  | cons line lines ih =>
    rw [mapM_cons] at h
    cases hline : ofLine line with
    | error e => rw [hline] at h; cases h
    | ok first =>
      cases hrest : lines.mapM ofLine with
      | error e => rw [hline, hrest] at h; cases h
      | ok rest =>
        rw [hline, hrest] at h
        cases h
        simp [ih hrest, hline, eq_comm]

/-- The messages about artifacts are those that stand on the lines. -/
theorem exists_announced_iff {lines : List Text} {readings : List Reading} (h : lines.mapM ofLine = .ok readings) :
    (∃ m ∈ readings.flatMap announced, m.Announces) ↔
      ∃ line ∈ lines, ∃ m, Message.ofLine? line = .ok (some m) ∧ m.Announces := by
  constructor
  · rintro ⟨m, hm, hannounces⟩
    obtain ⟨r, hr, hm⟩ := List.mem_flatMap.1 hm
    obtain ⟨line, hline, hread⟩ := (mem_iff_of_mapM h).1 hr
    refine ⟨line, hline, m, ?_, hannounces⟩
    obtain ⟨-, rfl⟩ | ⟨m', ds, hm', -, rfl⟩ := ofLine_eq_ok hread
    · cases hm
    · rw [announced, List.mem_filter, Option.mem_toList] at hm
      rw [hm']
      exact congrArg Except.ok hm.1
  · rintro ⟨line, hline, m, hm, hannounces⟩
    -- the line has a reading, as all of them do
    obtain ⟨r, hread⟩ : ∃ r, ofLine line = .ok r := by
      cases hread : ofLine line with
      | ok r => exact ⟨r, rfl⟩
      | error e =>
        have hnone : fault? line = none := fault?_eq_none_iff.2 (mapM_ok_iff.1 ⟨readings, h⟩ line hline)
        rw [fault?, hread] at hnone
        cases hnone
    refine ⟨m, List.mem_flatMap.2 ⟨r, (mem_iff_of_mapM h).2 ⟨line, hline, hread⟩, ?_⟩, hannounces⟩
    obtain ⟨hnone, -⟩ | ⟨m', ds, hm', -, rfl⟩ := ofLine_eq_ok hread
    · rw [hm] at hnone
      cases hnone
    · rw [hm, Except.ok.injEq, Option.some.injEq] at hm'
      rw [announced, List.mem_filter, Option.mem_toList]
      exact ⟨congrArg some hm'.symm, decide_eq_true hannounces.produced⟩

end Reading

/-! ## Builds -/

namespace Cargo

variable {c : Cargo} {m : Machine} {folder command : Text}

/-- A build whose program cannot be started fails. -/
theorem build_of_start_error (hcommand : c.command = .text command) {e : SystemError}
    (hstart : m.start folder command buildArguments = .error e) :
    ∃ o, (build c m folder).result = .ok o ∧ o.success = false := by
  rw [build, hcommand]
  simp only [hstart]
  exact ⟨_, rfl, rfl⟩

variable {run : Machine.Run}

/-- The result of a build whose program has started, by the readings of its lines. -/
theorem build_of_start (hcommand : c.command = .text command) (hsize : c.chunkSize ≠ 0)
    (hstart : m.start folder command buildArguments = .ok run) :
    match (LineBuffer.linesOf (run.program.output .stdout)).mapM Reading.ofLine with
    | .error e => (build c m folder).result = .error (.session (.message e))
    | .ok readings => ∃ o, (build c m folder).result = .ok o ∧ o.success = decide (run.program.exitCode = 0) ∧
        o.artifact = if run.program.exitCode = 0 then
          Artifact.resolve Artifact.contract m.cwd folder (readings.flatMap Reading.announced) else none := by
  have hresult := build_result c m hcommand hstart hsize
  rw [Schedule.result?_eq_batch, batch, Schedule.select_lines, Option.map_some, Option.some.injEq] at hresult
  cases hreadings : (LineBuffer.linesOf (run.program.output .stdout)).mapM Reading.ofLine with
  | error e =>
    rw [hreadings] at hresult
    exact hresult.symm
  | ok readings =>
    rw [hreadings] at hresult
    exact ⟨_, hresult.symm, rfl, rfl⟩

/-- **A build gives an outcome** exactly when no line of standard output stops it. -/
theorem build_completes_iff (hcommand : c.command = .text command) (hsize : c.chunkSize ≠ 0)
    (hstart : m.start folder command buildArguments = .ok run) :
    (∃ o, (build c m folder).result = .ok o) ↔
      ∀ line ∈ LineBuffer.linesOf (run.program.output .stdout), ¬ StopsBuild line := by
  have hresult := build_of_start hcommand hsize hstart
  rw [← Reading.mapM_ok_iff]
  cases hreadings : (LineBuffer.linesOf (run.program.output .stdout)).mapM Reading.ofLine with
  | error e =>
    rw [hreadings] at hresult
    simp [hresult]
  | ok readings =>
    rw [hreadings] at hresult
    obtain ⟨o, ho, -⟩ := hresult
    exact iff_of_true ⟨o, ho⟩ ⟨readings, rfl⟩

/-- **A build is ready to deploy** exactly when its program starts and succeeds, the build gives an outcome, and a
message on standard output announces a contract. -/
theorem build_ready_iff (hcommand : c.command = .text command) (hsize : c.chunkSize ≠ 0) :
    (∃ o, (build c m folder).result = .ok o ∧ o.readyToDeploy = true) ↔
      ∃ run, m.start folder command buildArguments = .ok run ∧ run.program.exitCode = 0 ∧
        (∃ o, (build c m folder).result = .ok o) ∧
        ∃ line ∈ LineBuffer.linesOf (run.program.output .stdout), ∃ msg,
          Message.ofLine? line = .ok (some msg) ∧ msg.Announces := by
  cases hstart : m.start folder command buildArguments with
  | error e =>
    obtain ⟨o, ho, hfailed⟩ := build_of_start_error hcommand hstart
    refine iff_of_false ?_ ?_
    · rintro ⟨o', ho', hready⟩
      rw [ho, Except.ok.injEq] at ho'
      rw [← ho', Outcome.readyToDeploy, hfailed] at hready
      cases hready
    · rintro ⟨run, hrun, -⟩
      cases hrun
  | ok run =>
    have hresult := build_of_start hcommand hsize hstart
    cases hreadings : (LineBuffer.linesOf (run.program.output .stdout)).mapM Reading.ofLine with
    | error e =>
      rw [hreadings] at hresult
      simp [hresult]
    | ok readings =>
      rw [hreadings] at hresult
      obtain ⟨o, ho, hsuccess, hartifact⟩ := hresult
      have hready : o.readyToDeploy = true ↔ run.program.exitCode = 0 ∧
          ∃ line ∈ LineBuffer.linesOf (run.program.output .stdout), ∃ msg,
            Message.ofLine? line = .ok (some msg) ∧ msg.Announces := by
        rw [← Reading.exists_announced_iff hreadings, ← Artifact.resolve_isSome_iff m.cwd folder,
          Outcome.readyToDeploy, hsuccess, hartifact]
        by_cases hcode : run.program.exitCode = 0 <;> simp [hcode]
      simp [ho, hready]

end Cargo

end ContractBuild
