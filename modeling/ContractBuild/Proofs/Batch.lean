import ContractBuild.Proofs.Lines
import ContractBuild.Session.Basic

/-!
# A build as one computation over its lines

A session takes output as it arrives. Here its outcome is compared with `batch`, which has all lines at hand: the
diagnostics and the artifact are read off the lines of standard output alone, and the hints are those of all lines, each
once. The lines are those that the two line buffers give (`handled`), in the order in which they come.

* `Findings.observe_of_ok`: one line extends the findings by what `batch` reads off it (`Findings.Extends`).
* `Findings.observeEach_of_ok`: so does a list of lines, if all of them can be read.
* `Session.complete_eq`: feeding chunks and ending a session takes the lines that are handled.
* `Session.run_eq_batch`: a run has the outcome of the batch, and the error of the first line that cannot be taken.
-/

namespace ContractBuild

/-! ## The two outputs -/

/-- What is on one of the outputs, in order. -/
def Stream.select {α : Type} (stream : Stream) (xs : List (Stream × α)) : List α :=
  xs.filterMap fun x => if x.1 = stream then some x.2 else none

/-- Things on one output. -/
def Stream.tag {α : Type} (stream : Stream) (xs : List α) : List (Stream × α) := xs.map (stream, ·)

namespace Stream

variable {α : Type} (stream : Stream)

@[simp] theorem select_nil : stream.select ([] : List (Stream × α)) = [] := rfl

@[simp] theorem select_append (xs ys : List (Stream × α)) :
    stream.select (xs ++ ys) = stream.select xs ++ stream.select ys := by
  simp [select]

@[simp] theorem select_cons (x : Stream × α) (xs : List (Stream × α)) :
    stream.select (x :: xs) = (if x.1 = stream then [x.2] else []) ++ stream.select xs := by
  by_cases h : x.1 = stream <;> simp [select, h]

@[simp] theorem select_tag (other : Stream) (xs : List α) :
    stream.select (other.tag xs) = if other = stream then xs else [] := by
  induction xs with
  | nil => exact (ite_self []).symm
  | cons x xs ih =>
    have hcons : other.tag (x :: xs) = (other, x) :: other.tag xs := rfl
    rw [hcons, select_cons, ih]
    by_cases h : other = stream
    · rw [if_pos h, if_pos h, if_pos h, List.singleton_append]
    · rw [if_neg h, if_neg h, if_neg h, List.nil_append]

end Stream

/-! ## What the lines say -/

/-- What a line of standard output says: its message, when it is one, and the diagnostics of that message. -/
structure Reading where
  message : Option Message
  diagnostics : List Diagnostic

namespace Reading

/-- Reads a line. -/
def ofLine (line : Text) : Except Message.Fault Reading :=
  match Message.ofLine? line with
  | .error e => .error e
  | .ok none => .ok ⟨none, []⟩
  | .ok (some m) => (Diagnostic.ofMessage m).map fun ds => ⟨some m, ds⟩

/-- The message, when it announces an artifact. -/
def announced (r : Reading) : List Message := r.message.toList.filter (·.kind = .artifactProduced)

/-- The hint of a line: that of a plain line, or of an error without spans. -/
def hint? : Stream × Text → Option Toolchain.Hint
  | (.stderr, line) => Toolchain.Hint.ofLine? line
  | (.stdout, line) =>
    match Message.ofLine? line with
    | .error _ => none
    | .ok none => Toolchain.Hint.ofLine? line
    | .ok (some m) => Toolchain.Hint.ofMessage? m

/-- The number of things that a line of standard output adds to: the diagnostics, the artifacts and the hints. -/
def contributions (line : Text) : Nat :=
  match ofLine line with
  | .error _ => 0
  | .ok r => [!r.diagnostics.isEmpty, !r.announced.isEmpty, (hint? (.stdout, line)).isSome].count true

end Reading

/-- The hints of lines, each once, in the order in which they are first seen. -/
def hintsOf (lines : List (Stream × Text)) : List Text :=
  ((lines.filterMap Reading.hint?).map Toolchain.Hint.message).eraseDups

/-- The outcome of a build whose lines are all at hand. -/
def batch (criteria : Artifact.Criteria) (cwd projectDir : Text) (lines : List (Stream × Text)) (exitCode : Int) :
    Except Message.Fault Outcome :=
  ((Stream.stdout.select lines).mapM Reading.ofLine).map fun readings => {
    success := exitCode = 0
    artifact :=
      if exitCode = 0 then Artifact.resolve criteria cwd projectDir (readings.flatMap Reading.announced) else none
    diagnostics := .ofList (readings.flatMap Reading.diagnostics)
    toolchainErrors := hintsOf lines
    exitCode := some exitCode }

/-- The lines that two line buffers give for chunks and at their ends, in the order in which they come. -/
def linesFrom (stdout stderr : LineBuffer) : List (Stream × Chunk) → List (Stream × Text)
  | [] => Stream.stdout.tag stdout.finish.1 ++ Stream.stderr.tag stderr.finish.1
  | (.stdout, c) :: rest => Stream.stdout.tag (stdout.take c).1 ++ linesFrom (stdout.take c).2 stderr rest
  | (.stderr, c) :: rest => Stream.stderr.tag (stderr.take c).1 ++ linesFrom stdout (stderr.take c).2 rest

/-- The lines of a build that takes chunks, in the order in which they come. -/
def handled (chunks : List (Stream × Chunk)) : List (Stream × Text) := linesFrom .empty .empty chunks

/-! ## Hints -/

namespace Toolchain

/-- Recording hints appends the new ones among them. -/
theorem foldl_record (hs : List Hint) (known : List Text) :
    hs.foldl (fun known h => record known (some h)) known =
      known ++ ((hs.map Hint.message).filter (· ∉ known)).eraseDups := by
  induction hs generalizing known with
  | nil => simp
  | cons h hs ih =>
    rw [List.foldl_cons, ih]
    by_cases hm : h.message ∈ known
    · simp [record, hm]
    · have hfilter : (hs.map Hint.message).filter (· ∉ known ++ [h.message]) =
          ((hs.map Hint.message).filter (· ∉ known)).filter (fun t => !t == h.message) := by
        rw [List.filter_filter]
        exact List.filter_congr fun t _ => Bool.eq_iff_iff.2 (by simp [and_comm])
      simp only [record, List.elem_eq_mem, hm, decide_false, Bool.false_eq_true, ↓reduceIte, hfilter, List.map_cons,
        not_false_eq_true, decide_true, List.filter_cons_of_pos, List.eraseDups_cons, List.append_assoc,
        List.singleton_append]

theorem foldl_record_nil (hs : List Hint) :
    hs.foldl (fun known h => record known (some h)) [] = (hs.map Hint.message).eraseDups := by
  rw [foldl_record, List.nil_append, List.filter_eq_self.2 fun t _ => by simp]

end Toolchain

/-! ## One line -/

namespace Reading

/-- A line that can be read is plain, or a message whose diagnostics can be had. -/
theorem ofLine_eq_ok {line : Text} {r : Reading} (h : ofLine line = .ok r) :
    (Message.ofLine? line = .ok none ∧ r = ⟨none, []⟩) ∨
      ∃ m ds, Message.ofLine? line = .ok (some m) ∧ Diagnostic.ofMessage m = .ok ds ∧ r = ⟨some m, ds⟩ := by
  unfold ofLine at h
  rcases hm : Message.ofLine? line with e | _ | m
  · simp [hm] at h
  · simp only [hm, Except.ok.injEq] at h
    exact .inl ⟨rfl, h.symm⟩
  · cases hd : Diagnostic.ofMessage m with
    | error e => simp [hm, hd, Except.map] at h
    | ok ds =>
      simp only [hm, hd, Except.map, Except.ok.injEq] at h
      exact .inr ⟨m, ds, rfl, hd, h.symm⟩

/-- A line that cannot be read is nested too deep, or a message whose diagnostics cannot be had. -/
theorem ofLine_eq_error {line : Text} {e : Message.Fault} (h : ofLine line = .error e) :
    Message.ofLine? line = .error e ∨
      ∃ m, Message.ofLine? line = .ok (some m) ∧ Diagnostic.ofMessage m = .error e := by
  unfold ofLine at h
  rcases hm : Message.ofLine? line with e' | _ | m
  · simp only [hm, Except.error.injEq] at h
    exact .inl (by rw [h])
  · simp [hm] at h
  · cases hd : Diagnostic.ofMessage m with
    | error e' =>
      simp only [hm, hd, Except.map, Except.error.injEq] at h
      exact .inr ⟨m, rfl, by rw [hd, h]⟩
    | ok ds => simp [hm, hd, Except.map] at h

end Reading

namespace Findings

/-- `f'` has what `f` has and, behind it, the given diagnostics, messages and hints. -/
structure Extends (f f' : Findings) (ds : List Diagnostic) (ms : List Message) (hs : List Toolchain.Hint) : Prop where
  diagnostics : f'.diagnostics = f.diagnostics.addAll ds
  artifacts : f'.artifacts = f.artifacts ++ ms
  hints : f'.hints = hs.foldl (fun known h => Toolchain.record known (some h)) f.hints

namespace Extends

theorem refl (f : Findings) : Extends f f [] [] [] := ⟨rfl, by simp, rfl⟩

theorem trans {f f' f'' : Findings} {ds ds' : List Diagnostic} {ms ms' : List Message} {hs hs' : List Toolchain.Hint}
    (h : Extends f f' ds ms hs) (h' : Extends f' f'' ds' ms' hs') :
    Extends f f'' (ds ++ ds') (ms ++ ms') (hs ++ hs') where
  diagnostics := by simp [h'.diagnostics, h.diagnostics, Diagnostics.addAll]
  artifacts := by rw [h'.artifacts, h.artifacts, List.append_assoc]
  hints := by rw [h'.hints, h.hints, List.foldl_append]

end Extends

theorem record_eq_foldl (known : List Text) (h : Option Toolchain.Hint) :
    Toolchain.record known h = h.toList.foldl (fun known h => Toolchain.record known (some h)) known := by
  cases h <;> rfl

/-- A plain line only adds its hint. -/
theorem extends_observeText (f : Findings) (line : Text) :
    Extends f (f.observeText line) [] [] (Toolchain.Hint.ofLine? line).toList :=
  ⟨rfl, by simp [observeText], record_eq_foldl _ _⟩

/-- A message of another kind than a compiler message has no diagnostics and no hint. -/
theorem ofMessage_of_kind_ne {m : Message} (h : m.kind ≠ .compilerDiagnostic) :
    Diagnostic.ofMessage m = .ok [] ∧ Toolchain.Hint.ofMessage? m = none := by
  simp [Diagnostic.ofMessage, Toolchain.Hint.ofMessage?, Toolchain.Hint.bodyWithoutSpans?, h]

/-- **A message** adds its diagnostics, itself when it announces an artifact, and its hint. -/
theorem observeMessage_of_ok {m : Message} {ds : List Diagnostic} (h : Diagnostic.ofMessage m = .ok ds) (f : Findings) :
    ∃ f', f.observeMessage m = .ok f' ∧
      Extends f f' ds (Reading.announced ⟨some m, ds⟩) (Toolchain.Hint.ofMessage? m).toList := by
  unfold observeMessage
  cases hk : m.kind with
  | compilerDiagnostic =>
    rw [h]
    exact ⟨_, rfl, rfl, by simp [Reading.announced, hk], record_eq_foldl _ _⟩
  | artifactProduced | buildFinished | other =>
    obtain ⟨hd, hh⟩ := ofMessage_of_kind_ne (m := m) (by simp [hk])
    rw [hd, Except.ok.injEq] at h
    rw [hh, ← h]
    exact ⟨_, rfl, rfl, by simp [Reading.announced, hk], rfl⟩

/-- A message whose diagnostics cannot be had cannot be taken. -/
theorem observeMessage_of_error {m : Message} {e : Message.Fault} (h : Diagnostic.ofMessage m = .error e)
    (f : Findings) : f.observeMessage m = .error e := by
  have hk : m.kind = .compilerDiagnostic := by
    by_contra hk
    rw [(ofMessage_of_kind_ne hk).1] at h
    cases h
  simp [observeMessage, hk, h, Except.map]

/-- A line of standard error adds its hint and never fails. -/
theorem observe_stderr (f : Findings) (line : Text) :
    ∃ f', f.observe line .stderr = .ok f' ∧ Extends f f' [] [] (Reading.hint? (.stderr, line)).toList :=
  ⟨_, rfl, f.extends_observeText line⟩

/-- **A line of standard output** that can be read adds what its reading says. -/
theorem observe_of_ok {line : Text} {r : Reading} (h : Reading.ofLine line = .ok r) (f : Findings) :
    ∃ f', f.observe line .stdout = .ok f' ∧
      Extends f f' r.diagnostics r.announced (Reading.hint? (.stdout, line)).toList := by
  obtain ⟨hm, rfl⟩ | ⟨m, ds, hm, hd, rfl⟩ := Reading.ofLine_eq_ok h
  · simp only [observe, Reading.hint?, hm]
    exact ⟨_, rfl, f.extends_observeText line⟩
  · simp only [observe, Reading.hint?, hm]
    exact observeMessage_of_ok hd f

/-- A line of standard output that cannot be read stops the build. -/
theorem observe_of_error {line : Text} {e : Message.Fault} (h : Reading.ofLine line = .error e) (f : Findings) :
    f.observe line .stdout = .error e := by
  obtain hm | ⟨m, hm, hd⟩ := Reading.ofLine_eq_error h
  · simp only [observe, hm]
  · simp only [observe, hm]
    exact observeMessage_of_error hd f

/-- **A line that is taken** adds what its reading says; on standard error it is read as plain. -/
theorem exists_extends_of_observe {f f' : Findings} {stream : Stream} {line : Text}
    (h : f.observe line stream = .ok f') :
    ∃ r : Reading, Extends f f' r.diagnostics r.announced (Reading.hint? (stream, line)).toList ∧
      (stream = .stderr ∧ r = ⟨none, []⟩ ∨ stream = .stdout ∧ Reading.ofLine line = .ok r) := by
  cases stream with
  | stderr =>
    obtain ⟨f₁, he, hextends⟩ := f.observe_stderr line
    rw [Except.ok.inj (h.symm.trans he)]
    exact ⟨⟨none, []⟩, hextends, .inl ⟨rfl, rfl⟩⟩
  | stdout =>
    cases hr : Reading.ofLine line with
    | error e => rw [observe_of_error hr] at h; cases h
    | ok r =>
      obtain ⟨f₁, he, hextends⟩ := observe_of_ok hr f
      rw [Except.ok.inj (h.symm.trans he)]
      exact ⟨r, hextends, .inr ⟨rfl, rfl⟩⟩

/-! ## Many lines -/

/-- Takes lines of both outputs, up to the first that cannot be taken. -/
def observeEach (f : Findings) : List (Stream × Text) → Except Message.Fault Unit × Findings
  | [] => (.ok (), f)
  | (stream, line) :: rest =>
    match f.observe line stream with
    | .error e => (.error e, f)
    | .ok f' => f'.observeEach rest

theorem observeAll_eq (f : Findings) (stream : Stream) (lines : List Text) :
    f.observeAll stream lines = f.observeEach (stream.tag lines) := by
  induction lines generalizing f with
  | nil => rfl
  | cons line lines ih =>
    simp only [observeAll, Stream.tag, List.map_cons, observeEach]
    cases f.observe line stream with
    | error e => rfl
    | ok f' => exact ih f'

theorem observeEach_append (f : Findings) (ls ks : List (Stream × Text)) :
    f.observeEach (ls ++ ks) =
      match f.observeEach ls with
      | (.error e, f') => (.error e, f')
      | (.ok (), f') => f'.observeEach ks := by
  induction ls generalizing f with
  | nil => rfl
  | cons l ls ih =>
    obtain ⟨stream, line⟩ := l
    simp only [List.cons_append, observeEach]
    cases f.observe line stream with
    | error e => rfl
    | ok f' => exact ih f'

end Findings

theorem Reading.mapM_cons (line : Text) (lines : List Text) :
    (line :: lines).mapM Reading.ofLine =
      match Reading.ofLine line with
      | .error e => .error e
      | .ok r => (lines.mapM Reading.ofLine).map (r :: ·) := by
  rw [List.mapM_cons]
  cases Reading.ofLine line with
  | error e => rfl
  | ok r => cases lines.mapM Reading.ofLine <;> rfl

namespace Findings

/-- **Lines that can be read** add what their readings say, in order. -/
theorem observeEach_of_ok {lines : List (Stream × Text)} {rs : List Reading}
    (h : (Stream.stdout.select lines).mapM Reading.ofLine = .ok rs) (f : Findings) :
    ∃ f', f.observeEach lines = (.ok (), f') ∧
      Extends f f' (rs.flatMap Reading.diagnostics) (rs.flatMap Reading.announced)
        (lines.filterMap Reading.hint?) := by
  induction lines generalizing f rs with
  | nil =>
    cases h
    exact ⟨f, rfl, .refl f⟩
  | cons l lines ih =>
    obtain ⟨stream, line⟩ := l
    have hhints : ((stream, line) :: lines).filterMap Reading.hint? =
        (Reading.hint? (stream, line)).toList ++ lines.filterMap Reading.hint? := by
      cases hh : Reading.hint? (stream, line) <;> simp [hh]
    rw [observeEach, hhints]
    cases stream with
    | stderr =>
      obtain ⟨f₁, h₁, e₁⟩ := f.observe_stderr line
      have hrest : (Stream.stdout.select lines).mapM Reading.ofLine = .ok rs := by simpa using h
      obtain ⟨f₂, h₂, e₂⟩ := ih hrest f₁
      exact ⟨f₂, by rw [h₁]; exact h₂, e₁.trans e₂⟩
    | stdout =>
      simp only [Stream.select_cons, ↓reduceIte, List.singleton_append, Reading.mapM_cons] at h
      cases hr : Reading.ofLine line with
      | error e => rw [hr] at h; cases h
      | ok r =>
        rw [hr] at h
        cases hrs : (Stream.stdout.select lines).mapM Reading.ofLine with
        | error e => rw [hrs] at h; cases h
        | ok rs' =>
          rw [hrs] at h
          cases h
          obtain ⟨f₁, h₁, e₁⟩ := observe_of_ok hr f
          obtain ⟨f₂, h₂, e₂⟩ := ih hrs f₁
          exact ⟨f₂, by rw [h₁]; exact h₂, e₁.trans e₂⟩

/-- **The first line of standard output that cannot be read** stops the build. -/
theorem observeEach_of_error {lines : List (Stream × Text)} {e : Message.Fault}
    (h : (Stream.stdout.select lines).mapM Reading.ofLine = .error e) (f : Findings) :
    (f.observeEach lines).1 = .error e := by
  induction lines generalizing f with
  | nil => cases h
  | cons l lines ih =>
    obtain ⟨stream, line⟩ := l
    rw [observeEach]
    cases stream with
    | stderr =>
      obtain ⟨f₁, h₁, -⟩ := f.observe_stderr line
      rw [h₁]
      exact ih (by simpa using h) f₁
    | stdout =>
      simp only [Stream.select_cons, ↓reduceIte, List.singleton_append, Reading.mapM_cons] at h
      cases hr : Reading.ofLine line with
      | error e' =>
        rw [hr] at h
        cases h
        rw [observe_of_error hr]
      | ok r =>
        rw [hr] at h
        cases hrs : (Stream.stdout.select lines).mapM Reading.ofLine with
        | ok rs' => rw [hrs] at h; cases h
        | error e' =>
          rw [hrs] at h
          cases h
          obtain ⟨f₁, h₁, -⟩ := observe_of_ok hr f
          rw [h₁]
          exact ih hrs f₁

end Findings

/-! ## Runs of a session -/

namespace Session

/-- Takes chunks in order, up to one that cannot be taken. -/
def feedAll (s : Session) : List (Stream × Chunk) → Except Error Unit × Session
  | [] => (.ok (), s)
  | (stream, c) :: rest =>
    match s.feed stream c with
    | (.error e, s') => (.error e, s')
    | (.ok (), s') => s'.feedAll rest

/-- Takes chunks and ends the build. -/
def complete (s : Session) (cwd : Text) (chunks : List (Stream × Chunk)) (exitCode : Int) :
    Except Error (Outcome × List Log.Record) × Session :=
  match s.feedAll chunks with
  | (.error e, s') => (.error e, s')
  | (.ok (), s') => s'.finalize cwd exitCode

/-- The run of a fresh session, up to an operation that fails: it is started, streams chunks, and ends. -/
def run (projectDir : Text) (criteria : Artifact.Criteria) (cwd : Text) (chunks : List (Stream × Chunk))
    (exitCode : Int) : Except Error (Outcome × List Log.Record) × Session :=
  match (new projectDir criteria).markSpawning with
  | (.error e, s) => (.error e, s)
  | (.ok (), s) =>
    match s.markStreaming with
    | (.error e, s') => (.error e, s')
    | (.ok (), s') => s'.complete cwd chunks exitCode

theorem streaming_eq (projectDir : Text) (criteria : Artifact.Criteria) :
    streaming projectDir criteria = { new projectDir criteria with phase := .streaming } := rfl

theorem run_eq_complete (projectDir : Text) (criteria : Artifact.Criteria) (cwd : Text) (chunks : List (Stream × Chunk))
    (exitCode : Int) :
    run projectDir criteria cwd chunks exitCode = (streaming projectDir criteria).complete cwd chunks exitCode := rfl

/-- Lines are taken as their findings say. -/
theorem observe_eq (s : Session) (stream : Stream) (lines : List Text) :
    s.observe stream lines = ((s.findings.observeEach (stream.tag lines)).1.mapError .message,
      { s with findings := (s.findings.observeEach (stream.tag lines)).2 }) := by
  simp [observe, Findings.observeAll_eq]

/-- **A chunk** is taken as the lines that it ends. -/
theorem feed_eq {s : Session} (h : s.phase = .streaming) (stream : Stream) (c : Chunk) :
    s.feed stream c =
      (s.setBuffer ((s.buffer stream).take c).2 stream).observe stream ((s.buffer stream).take c).1 := by
  simp [feed, h]

@[simp] theorem findings_setBuffer (s : Session) (b : LineBuffer) (stream : Stream) :
    (s.setBuffer b stream).findings = s.findings := by cases stream <;> rfl

@[simp] theorem phase_setBuffer (s : Session) (b : LineBuffer) (stream : Stream) :
    (s.setBuffer b stream).phase = s.phase := by cases stream <;> rfl

theorem advance_finalizing {s : Session} (h : s.phase = .streaming) :
    s.advance .finalizing = (.ok (), { s with phase := .finalizing }) := by
  simp [advance, h, Phase.next]

/-- **The end of a build** takes the lines that are still open, those of standard output first. -/
theorem finalize_eq {s : Session} (h : s.phase = .streaming) (cwd : Text) (exitCode : Int) :
    (s.finalize cwd exitCode).1 =
      match s.findings.observeEach (linesFrom s.stdout s.stderr []) with
      | (.error e, _) => .error (.message e)
      | (.ok (), f) => .ok ({ s with findings := f }.outcome cwd exitCode) := by
  rw [finalize, advance_finalizing h, linesFrom, Findings.observeEach_append]
  simp only [close, observe_eq, buffer, setBuffer]
  rcases s.findings.observeEach (Stream.stdout.tag s.stdout.finish.1) with ⟨_ | ⟨⟩, f⟩
  · rfl
  · simp only [Except.mapError]
    rcases f.observeEach (Stream.stderr.tag s.stderr.finish.1) with ⟨_ | ⟨⟩, f'⟩ <;> rfl

/-- **A whole run** takes the lines of its buffers in order. -/
theorem complete_eq {s : Session} (h : s.phase = .streaming) (cwd : Text) (chunks : List (Stream × Chunk))
    (exitCode : Int) :
    (s.complete cwd chunks exitCode).1 =
      match s.findings.observeEach (linesFrom s.stdout s.stderr chunks) with
      | (.error e, _) => .error (.message e)
      | (.ok (), f) => .ok ({ s with findings := f }.outcome cwd exitCode) := by
  induction chunks generalizing s with
  | nil => exact finalize_eq h cwd exitCode
  | cons chunk chunks ih =>
    obtain ⟨stream, c⟩ := chunk
    rw [complete, feedAll, feed_eq h, observe_eq, findings_setBuffer]
    have hlines : linesFrom s.stdout s.stderr ((stream, c) :: chunks) =
        stream.tag ((s.buffer stream).take c).1 ++
          linesFrom (s.setBuffer ((s.buffer stream).take c).2 stream).stdout
            (s.setBuffer ((s.buffer stream).take c).2 stream).stderr chunks := by
      cases stream <;> rfl
    rw [hlines, Findings.observeEach_append]
    rcases s.findings.observeEach (stream.tag ((s.buffer stream).take c).1) with ⟨_ | ⟨⟩, f⟩
    · rfl
    · have hnext := ih (s := { s.setBuffer ((s.buffer stream).take c).2 stream with findings := f }) (by simp [h])
      cases stream <;> exact hnext

/-- **A run has the outcome of the batch**, and the error of the first line of standard output that cannot be read. -/
theorem run_outcome (projectDir : Text) (criteria : Artifact.Criteria) (cwd : Text) (chunks : List (Stream × Chunk))
    (exitCode : Int) :
    (run projectDir criteria cwd chunks exitCode).1.map Prod.fst =
      (batch criteria cwd projectDir (handled chunks) exitCode).mapError .message := by
  rw [run_eq_complete, complete_eq rfl, batch]
  have hlines : linesFrom (streaming projectDir criteria).stdout (streaming projectDir criteria).stderr chunks =
      handled chunks := rfl
  rw [hlines]
  cases h : (Stream.stdout.select (handled chunks)).mapM Reading.ofLine with
  | error e =>
    have he := Findings.observeEach_of_error h (streaming projectDir criteria).findings
    rcases ho : (streaming projectDir criteria).findings.observeEach (handled chunks) with ⟨r, f⟩
    rw [ho] at he
    subst he
    rfl
  | ok rs =>
    obtain ⟨f, ho, hf⟩ := Findings.observeEach_of_ok h (streaming projectDir criteria).findings
    rw [ho]
    have hhints : f.hints = hintsOf (handled chunks) := by
      rw [hf.hints]
      exact Toolchain.foldl_record_nil _
    simp [Except.map, Except.mapError, outcome, hhints, hf.diagnostics, hf.artifacts, streaming_eq, new, Findings.empty,
      Diagnostics.ofList]

end Session

/-! ## The lines of one output -/

namespace LineBuffer

/-- The lines of a buffer for chunks and for its end. -/
def rest (b : LineBuffer) : List Chunk → List Text
  | [] => b.finish.1
  | c :: cs => (b.take c).1 ++ (b.take c).2.rest cs

theorem run_eq_rest (chunks : List Chunk) : run chunks = .ok (empty.rest chunks) := by
  have from_unfinished (b : LineBuffer) (h : b.finished = false) :
      ∃ b', b.feedAll chunks = .ok b' ∧ b'.1 ++ b'.2.finish.1 = b.rest chunks := by
    induction chunks generalizing b with
    | nil => exact ⟨_, rfl, rfl⟩
    | cons c cs ih =>
      have hnext : (b.take c).2.finished = false := by rw [take_eq]; exact h
      obtain ⟨b', hb, hl⟩ := ih (b.take c).2 hnext
      have hfeed : b.feed c = .ok (b.take c) := by simp [feed, h]
      refine ⟨((b.take c).1 ++ b'.1, b'.2), ?_, ?_⟩
      · rw [feedAll, hfeed]
        simp [hb, Except.map]
      · simp [rest, ← hl]
  obtain ⟨b', hb, hl⟩ := from_unfinished empty rfl
  simp [run, hb, hl, Except.map]

end LineBuffer

/-- What is handled of an output is what its line buffer gives for its own chunks. -/
theorem select_handled (stream : Stream) (chunks : List (Stream × Chunk)) :
    LineBuffer.run (stream.select chunks) = .ok (stream.select (handled chunks)) := by
  have hfrom (stdout stderr : LineBuffer) : stream.select (linesFrom stdout stderr chunks) =
      (if stream = .stdout then stdout else stderr).rest (stream.select chunks) := by
    induction chunks generalizing stdout stderr with
    | nil => cases stream <;> simp [linesFrom, LineBuffer.rest]
    | cons chunk chunks ih =>
      obtain ⟨other, c⟩ := chunk
      cases stream <;> cases other <;> simp [linesFrom, LineBuffer.rest, ih]
  rw [LineBuffer.run_eq_rest, handled, hfrom, ite_self]

/-! ## What one line adds to -/

namespace Reading

/-- **The diagnostics of a message**: none, or those of a compiler message with spans, whose level decides. -/
theorem ofMessage_cases (m : Message) :
    Diagnostic.ofMessage m = .ok [] ∨
      ∃ body s ss, m.kind = .compilerDiagnostic ∧ m.field? "message" = some (.map body) ∧
        Value.entry? "spans" body = some (.list (s :: ss)) ∧
        Diagnostic.ofMessage m = (Diagnostic.severityOf? (Value.entry? "level" body)).map fun severity =>
          (severity.map (Diagnostic.ofBody body (s :: ss))).getD [] := by
  unfold Diagnostic.ofMessage
  split
  · exact .inl rfl
  · rename_i hk
    split
    · rename_i body hbody
      split
      · rename_i s ss hspans
        refine .inr ⟨body, s, ss, by simpa using hk, hbody, hspans, ?_⟩
        rcases Diagnostic.severityOf? (Value.entry? "level" body) with e | _ | severity <;> rfl
      · exact .inl rfl
    · exact .inl rfl

/-- A message with diagnostics has spans, and so gives no hint. -/
theorem ofMessage?_eq_none {m : Message} {ds : List Diagnostic} (h : Diagnostic.ofMessage m = .ok ds) (hne : ds ≠ []) :
    Toolchain.Hint.ofMessage? m = none := by
  rcases ofMessage_cases m with hnil | ⟨body, s, ss, hk, hbody, hspans, -⟩
  · rw [hnil, Except.ok.injEq] at h
    exact absurd h.symm hne
  · simp [Toolchain.Hint.ofMessage?, Toolchain.Hint.bodyWithoutSpans?, hk, hbody, hspans, Value.isTruthy]

/-- **A line of standard output** adds to at most one of the diagnostics, the artifacts and the hints. -/
theorem contributions_le_one (line : Text) : contributions line ≤ 1 := by
  unfold contributions
  cases hr : ofLine line with
  | error e => exact Nat.zero_le 1
  | ok r =>
    obtain ⟨-, rfl⟩ | ⟨m, ds, hm, hd, rfl⟩ := ofLine_eq_ok hr
    · cases (hint? (.stdout, line)).isSome <;> simp [announced]
    · have hhint : hint? (.stdout, line) = Toolchain.Hint.ofMessage? m := by simp [hint?, hm]
      rw [hhint]
      by_cases hk : m.kind = .compilerDiagnostic
      · cases ds with
        | nil => cases (Toolchain.Hint.ofMessage? m).isSome <;> simp [announced, hk]
        | cons d ds => simp [announced, hk, ofMessage?_eq_none hd (by simp)]
      · obtain ⟨hd', hh⟩ := Findings.ofMessage_of_kind_ne hk
        rw [hd', Except.ok.injEq] at hd
        subst hd
        cases hka : (announced ⟨some m, []⟩).isEmpty <;> simp [hh, hka]

end Reading

/-- What standard output decides of an outcome: success, the artifact and the diagnostics. -/
def Outcome.verdict (o : Outcome) : Bool × Option Artifact × Diagnostics := (o.success, o.artifact, o.diagnostics)

/-- The verdict of a batch is that of the lines of standard output. -/
theorem batch_verdict_congr (criteria : Artifact.Criteria) (cwd projectDir : Text) {ls ks : List (Stream × Text)}
    (h : Stream.stdout.select ls = Stream.stdout.select ks) (exitCode : Int) :
    (batch criteria cwd projectDir ls exitCode).map Outcome.verdict =
      (batch criteria cwd projectDir ks exitCode).map Outcome.verdict := by
  unfold batch
  rw [h]
  cases (Stream.stdout.select ks).mapM Reading.ofLine <;> rfl

/-- The lines of an output only depend on what is fed to it. -/
theorem select_handled_congr (stream : Stream) {cs cs' : List (Stream × Chunk)}
    (h : LineBuffer.run (stream.select cs) = LineBuffer.run (stream.select cs')) :
    stream.select (handled cs) = stream.select (handled cs') := by
  rw [select_handled, select_handled] at h
  exact Except.ok.inj h

namespace Session

/-- **A build is a computation over its lines.** Its outcome is that of `batch` for the lines of its two line buffers;
a line of standard output adds to one thing at most; and leaving out standard error changes neither success nor the
artifact nor the diagnostics. -/
theorem run_eq_batch (projectDir : Text) (criteria : Artifact.Criteria) (cwd : Text) (chunks : List (Stream × Chunk))
    (exitCode : Int) :
    (run projectDir criteria cwd chunks exitCode).1.map Prod.fst =
        (batch criteria cwd projectDir (handled chunks) exitCode).mapError .message ∧
      (∀ stream : Stream, LineBuffer.run (stream.select chunks) = .ok (stream.select (handled chunks))) ∧
      (∀ line, Reading.contributions line ≤ 1) ∧
      (run projectDir criteria cwd chunks exitCode).1.map (fun r => r.1.verdict) =
        (run projectDir criteria cwd (chunks.filter (·.1 = .stdout)) exitCode).1.map (fun r => r.1.verdict) := by
  refine ⟨run_outcome .., fun stream => select_handled stream chunks, Reading.contributions_le_one, ?_⟩
  have hverdict (cs : List (Stream × Chunk)) :
      (run projectDir criteria cwd cs exitCode).1.map (fun r => r.1.verdict) =
        ((batch criteria cwd projectDir (handled cs) exitCode).map Outcome.verdict).mapError Error.message := by
    have h := congrArg (Except.map Outcome.verdict) (run_outcome projectDir criteria cwd cs exitCode)
    generalize (run projectDir criteria cwd cs exitCode).1 = result at h ⊢
    generalize batch criteria cwd projectDir (handled cs) exitCode = outcome at h ⊢
    cases result <;> cases outcome <;> exact h
  have hsame : Stream.stdout.select (chunks.filter (·.1 = .stdout)) = Stream.stdout.select chunks := by
    induction chunks with
    | nil => rfl
    | cons chunk chunks ih =>
      obtain ⟨stream, c⟩ := chunk
      cases stream <;> simp [ih]
  rw [hverdict, hverdict, batch_verdict_congr]
  exact select_handled_congr .stdout (by rw [hsame])

end Session

end ContractBuild
