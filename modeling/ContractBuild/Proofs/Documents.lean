import ContractBuild.Proofs.Announcements
import ContractBuild.Proofs.Findings

/-!
# The document of an outcome

What a session has taken can go into a document as long as no surrogate pair comes in (`Session.Clear`): process output
has no surrogates but in escapes, and the folders, commands and errors that come from elsewhere have no pair. Every
operation keeps this (`Session.Clear.perform`), and so the values of all outcomes are expressible.

* `Outcome.expressible_toValue`, `Outcome.parse_document_of_expressible`: an outcome from its parts.
* `Outcome.eq_of_toValue_eq`: the value tells the outcome.
* `Session.Clear.expressible_of_mem_outcomes`: the outcomes of operations, by induction on these.
* `Session.parse_document`: the document is read back as the value, and the value tells the outcome.
-/

namespace ContractBuild

open Json

/-! ## Values of outcomes -/

/-- The path of a contract makes no pair when the folders and the announced names make none. -/
theorem Artifact.unpaired_of_resolve {criteria : Criteria} {cwd projectDir : Text} (hcwd : cwd.Unpaired)
    (hdir : projectDir.Unpaired) {messages : List Message} (hms : ∀ m ∈ messages, Expressible (.map m.fields))
    {a : Artifact} (h : resolve criteria cwd projectDir messages = some a) :
    a.path.Unpaired ∧ a.kind = criteria.targetKind := by
  obtain ⟨name, hlast, rfl⟩ := Option.map_eq_some_iff.1 h
  refine ⟨Path.unpaired_absolute hcwd (Path.unpaired_join hdir ?_), rfl⟩
  obtain ⟨m, hm, hcandidate⟩ := List.mem_filterMap.1 (List.mem_filter.1 (List.mem_of_getLast? hlast)).1
  unfold candidate? at hcandidate
  split at hcandidate
  · obtain ⟨names, hnames, hmem⟩ := mem_fileNames_iff.1 (List.mem_of_find?_eq_some hcandidate)
    exact (((hms m hm).entry hnames).item hmem).unpaired
  · cases hcandidate

/-- Groups of diagnostics are expressible when the diagnostics are. -/
theorem Diagnostics.expressible_toValue {ds : Diagnostics} (hgrouped : ds.Grouped)
    (h : ∀ d ∈ ds.flatten, Expressible d.toValue) : Expressible ds.toValue := by
  have hmem {g : Text × List Diagnostic} (hg : g ∈ ds.groups) {d : Diagnostic} (hd : d ∈ g.2) : d ∈ ds.flatten :=
    List.mem_flatMap.2 ⟨g, hg, hd⟩
  refine expressible_map ?_ ?_ ?_
  · rw [List.map_map]
    exact hgrouped.nodup
  · intro e he
    obtain ⟨g, hg, rfl⟩ := List.mem_map.1 he
    obtain ⟨d, hd⟩ := List.exists_mem_of_ne_nil _ (hgrouped.nonempty g hg)
    have hfile : d.file = g.1 := Option.some.inj (hgrouped.own g hg d hd)
    have hvalue : Expressible (.text d.file) := (h d (hmem hg hd)).entry (Value.entry?_cons_self "file_path" _ _)
    rw [← hfile]
    exact hvalue.unpaired
  · intro e he
    obtain ⟨g, hg, rfl⟩ := List.mem_map.1 he
    refine expressible_list fun v hv => ?_
    obtain ⟨d, hd, rfl⟩ := List.mem_map.1 hv
    exact h d (hmem hg hd)

namespace Outcome

variable {o : Outcome}

/-- **The value of an outcome** is expressible when its parts are. -/
theorem expressible_toValue (hartifact : ∀ a ∈ o.artifact, a.path.Unpaired ∧ a.kind.Unpaired)
    (hdiagnostics : Expressible o.diagnostics.toValue) (hhints : ∀ t ∈ o.toolchainErrors, t.Unpaired)
    (hcode : ∀ n ∈ o.exitCode, (Text.ofNat n.natAbs).length ≤ maxDigits) : Expressible o.toValue := by
  have hartifactValue : Expressible (artifactValue o.artifact) := by
    cases ha : o.artifact with
    | none => exact expressible_null
    | some a =>
      obtain ⟨hpath, hkind⟩ := hartifact a ha
      exact expressible_record ["path", "kind"] (by decide) rfl
        (List.forall_mem_cons.2 ⟨expressible_text hpath, List.forall_mem_singleton.2 (expressible_text hkind)⟩)
  have hhintValues : Expressible (.list (o.toolchainErrors.map .text)) :=
    expressible_list (List.forall_mem_map.2 fun t ht => expressible_text (hhints t ht))
  refine expressible_record ["success", "exit_code", "artifact", "diagnostics", "toolchain_errors"] (by decide) rfl ?_
  simp only [List.map_cons, List.map_nil, List.forall_mem_cons]
  exact ⟨expressible_bool _, expressible_ofInt? hcode, hartifactValue, hdiagnostics, hhintValues, List.forall_mem_nil _⟩

/-- **The document of an outcome** is read back as the value of the outcome. -/
theorem parse_document_of_expressible (h : Expressible o.toValue) (hdepth : o.toValue.depth ≤ maxDepth) :
    parse o.document = .ok o.toValue := by
  have hseparates : Layout.indented.Separates := ⟨⟨[], rfl, nofun⟩, ⟨[' '], rfl, by decide⟩⟩
  have hfeed : ∀ c ∈ Text.ofString "\n", isSpace c = true := by decide
  exact h.parse_print_append hdepth hseparates hfeed

end Outcome

/-! ## What a value tells -/

/-- Lists that are mapped to the same are the same, when the map keeps their elements apart. -/
theorem eq_of_map_eq_map {α β : Type} {f : α → β} {xs ys : List α} (hf : ∀ x ∈ xs, ∀ y ∈ ys, f x = f y → x = y)
    (h : xs.map f = ys.map f) : xs = ys := by
  induction xs generalizing ys with
  | nil => exact (List.map_eq_nil_iff.1 h.symm).symm
  | cons x xs ih =>
    obtain ⟨y, ys, rfl, hxy, hrest⟩ := List.map_eq_cons_iff.1 h.symm
    obtain rfl : x = y := hf x List.mem_cons_self y List.mem_cons_self hxy.symm
    rw [ih (fun x hx y hy => hf x (List.mem_cons_of_mem _ hx) y (List.mem_cons_of_mem _ hy)) hrest.symm]

theorem Severity.eq_of_name_eq {s t : Severity} (h : s.name = t.name) : s = t := by
  cases s <;> cases t <;> first | rfl | exact absurd h (by decide)

theorem Position.eq_of_toValue_eq {p q : Position} (h : p.toValue = q.toValue) : p = q := by
  obtain ⟨line, character⟩ := p
  obtain ⟨line', character'⟩ := q
  simp only [toValue, Value.map.injEq, List.cons.injEq, Prod.mk.injEq, Value.int.injEq, true_and, and_true] at h
  rw [h.1, h.2]

theorem Value.ofText?_inj {t u : Option Text} (h : Value.ofText? t = Value.ofText? u) : t = u := by
  cases t <;> cases u <;> cases h <;> rfl

theorem Value.ofInt?_inj {m n : Option Int} (h : Value.ofInt? m = Value.ofInt? n) : m = n := by
  cases m <;> cases n <;> cases h <;> rfl

/-- **A diagnostic** is told by its value: a code that is there is not null. -/
theorem Diagnostic.eq_of_toValue_eq {d e : Diagnostic} (hd : d.code ≠ some .null) (he : e.code ≠ some .null)
    (h : d.toValue = e.toValue) : d = e := by
  have hcode {c c' : Option Value} (hc : c ≠ some .null) (hc' : c' ≠ some .null) (h : c.getD .null = c'.getD .null) :
      c = c' := by
    cases c with
    | none =>
      cases c' with
      | none => rfl
      | some v => exact absurd (congrArg some h.symm) hc'
    | some v =>
      cases c' with
      | none => exact absurd (congrArg some h) hc
      | some v' => exact congrArg some h
  obtain ⟨file, ⟨start, stop⟩, severity, message, code, documentation⟩ := d
  obtain ⟨file', ⟨start', stop'⟩, severity', message', code', documentation'⟩ := e
  simp only [toValue, Value.map.injEq, List.cons.injEq, Prod.mk.injEq, Value.text.injEq, true_and, and_true] at h
  obtain ⟨rfl, ⟨hstart, hstop⟩, hseverity, rfl, hcodes, hdoc⟩ := h
  obtain rfl : code = code' := hcode hd he hcodes
  rw [Position.eq_of_toValue_eq hstart, Position.eq_of_toValue_eq hstop, Severity.eq_of_name_eq hseverity,
    Value.ofText?_inj hdoc]

/-- **Diagnostics by file** are told by their value: the files in order, each with its diagnostics in order. -/
theorem Diagnostics.eq_of_toValue_eq {ds es : Diagnostics} (hds : ∀ d ∈ ds.flatten, d.code ≠ some .null)
    (hes : ∀ d ∈ es.flatten, d.code ≠ some .null) (h : ds.toValue = es.toValue) : ds = es := by
  obtain ⟨gs⟩ := ds
  obtain ⟨gs'⟩ := es
  rw [toValue, toValue, Value.map.injEq] at h
  rw [Diagnostics.mk.injEq]
  refine eq_of_map_eq_map (fun g hg g' hg' hgroup => ?_) h
  obtain ⟨hfile, hvalues⟩ := Prod.mk.inj hgroup
  rw [groupValue, groupValue, Value.list.injEq] at hvalues
  refine Prod.ext hfile (eq_of_map_eq_map (fun d hd e he => ?_) hvalues)
  exact Diagnostic.eq_of_toValue_eq (hds d (List.mem_flatMap.2 ⟨g, hg, hd⟩)) (hes e (List.mem_flatMap.2 ⟨g', hg', he⟩))

/-- **An outcome** is told by its value. -/
theorem Outcome.eq_of_toValue_eq {o o' : Outcome} (ho : ∀ d ∈ o.diagnostics.flatten, d.code ≠ some .null)
    (ho' : ∀ d ∈ o'.diagnostics.flatten, d.code ≠ some .null) (h : o.toValue = o'.toValue) : o = o' := by
  have hartifact {a a' : Option Artifact} (h : artifactValue a = artifactValue a') : a = a' := by
    cases a with
    | none => cases a' with
      | none => rfl
      | some a' => cases h
    | some a => cases a' with
      | none => cases h
      | some a' =>
        obtain ⟨path, kind⟩ := a
        obtain ⟨path', kind'⟩ := a'
        simp only [artifactValue, Artifact.toValue, Value.map.injEq, List.cons.injEq, Prod.mk.injEq, Value.text.injEq,
          true_and, and_true] at h
        rw [h.1, h.2]
  obtain ⟨success, artifact, diagnostics, hints, exitCode⟩ := o
  obtain ⟨success', artifact', diagnostics', hints', exitCode'⟩ := o'
  simp only [toValue, Value.map.injEq, List.cons.injEq, Prod.mk.injEq, Value.bool.injEq, Value.list.injEq, true_and,
    and_true] at h
  obtain ⟨rfl, hcode, hartifacts, hdiagnostics, hhints⟩ := h
  obtain rfl : diagnostics = diagnostics' := Diagnostics.eq_of_toValue_eq ho ho' hdiagnostics
  rw [Value.ofInt?_inj hcode, hartifact hartifacts, eq_of_map_eq_map (fun t _ u _ => Value.text.inj) hhints]

/-! ## Outcomes of sessions -/

namespace Session

/-- An operation whose texts can go into a document. Text of the process has no surrogates, and what comes from elsewhere
has no first half of a surrogate pair before a second one; the exit code has not too many digits. -/
def Operation.Clear : Operation → Prop
  | .markSpawning | .markStreaming => True
  | .feed _ chunk => chunk.Clear
  | .finalize cwd exitCode => cwd.Unpaired ∧ (Text.ofNat exitCode.natAbs).length ≤ maxDigits
  | .failToSpawn command error => command.Unpaired ∧ error.message.Unpaired

/-- A session that has only taken what can go into a document. -/
structure Clear (s : Session) : Prop where
  projectDir : s.projectDir.Unpaired
  targetKind : s.criteria.targetKind.Unpaired
  stdout : s.stdout.Clear
  stderr : s.stderr.Clear
  findings : s.findings.Expressible

theorem clear_new {projectDir : Text} {criteria : Artifact.Criteria} (hdir : projectDir.Unpaired)
    (hkind : criteria.targetKind.Unpaired) : (new projectDir criteria).Clear :=
  ⟨hdir, hkind, LineBuffer.clear_empty, LineBuffer.clear_empty, Findings.expressible_empty⟩

variable {s : Session}

theorem Clear.buffer (h : s.Clear) (stream : Stream) : (s.buffer stream).Clear := by
  cases stream with
  | stdout => exact h.stdout
  | stderr => exact h.stderr

theorem Clear.setBuffer (h : s.Clear) {b : LineBuffer} (hb : b.Clear) (stream : Stream) : (s.setBuffer b stream).Clear := by
  cases stream with
  | stdout => exact { h with stdout := hb }
  | stderr => exact { h with stderr := hb }

theorem Clear.advance (h : s.Clear) (p : Phase) : (s.advance p).2.Clear := by
  unfold Session.advance
  split
  · exact { h with }
  · exact h

theorem Clear.release (h : s.Clear) : s.release.Clear :=
  { h with
    stdout := LineBuffer.clear_empty
    stderr := LineBuffer.clear_empty
    findings := { Findings.expressible_empty with hints := h.findings.hints } }

/-- **Lines** without surrogates. -/
theorem Clear.observe (h : s.Clear) {stream : Stream} {lines : List Text} (hlines : ∀ line ∈ lines, line.isScalar = true) :
    (s.observe stream lines).2.Clear := by
  rw [observe_eq]
  exact { h with findings := h.findings.observeEach (List.forall_mem_map.2 hlines) }

/-- **A chunk** without surrogates. -/
theorem Clear.feed (h : s.Clear) {stream : Stream} {c : Chunk} (hc : c.Clear) : (s.feed stream c).2.Clear := by
  unfold Session.feed
  split
  · exact h
  · obtain ⟨hlines, hb⟩ := (h.buffer stream).take hc
    exact (h.setBuffer hb stream).observe hlines

/-- **The end** of an output. -/
theorem Clear.close (h : s.Clear) (stream : Stream) : (s.close stream).2.Clear := by
  obtain ⟨hlines, hb⟩ := (h.buffer stream).finish
  exact (h.setBuffer hb stream).observe hlines

theorem Clear.outcome (h : s.Clear) {cwd : Text} (hcwd : cwd.Unpaired) {exitCode : Int}
    (hcode : (Text.ofNat exitCode.natAbs).length ≤ maxDigits) : Expressible (s.outcome cwd exitCode).1.toValue := by
  refine Outcome.expressible_toValue (fun a ha => ?_)
    (Diagnostics.expressible_toValue h.findings.grouped h.findings.diagnostics) h.findings.hints fun n hn => ?_
  · simp only [Session.outcome] at ha
    split at ha
    · obtain ⟨hpath, hkind⟩ := Artifact.unpaired_of_resolve hcwd h.projectDir h.findings.artifacts ha
      exact ⟨hpath, by rw [hkind]; exact h.targetKind⟩
    · cases ha
  · rw [← Option.some.inj hn]
    exact hcode

/-- **The end of a build**, also when a line that was still open cannot be taken. -/
theorem Clear.finalize (h : s.Clear) {cwd : Text} (hcwd : cwd.Unpaired) {exitCode : Int}
    (hcode : (Text.ofNat exitCode.natAbs).length ≤ maxDigits) :
    (s.finalize cwd exitCode).2.Clear ∧ ∀ r, (s.finalize cwd exitCode).1 = .ok r → Expressible r.1.toValue := by
  unfold Session.finalize
  have hadvanced := h.advance .finalizing
  generalize s.advance .finalizing = r at hadvanced ⊢
  obtain ⟨_ | ⟨⟩, s₁⟩ := r
  · exact ⟨hadvanced, nofun⟩
  have hstdout := Clear.close hadvanced .stdout
  dsimp only
  generalize s₁.close .stdout = r at hstdout ⊢
  obtain ⟨_ | ⟨⟩, s₂⟩ := r
  · exact ⟨hstdout, nofun⟩
  have hstderr := Clear.close hstdout .stderr
  dsimp only
  generalize s₂.close .stderr = r at hstderr ⊢
  obtain ⟨_ | ⟨⟩, s₃⟩ := r
  · exact ⟨hstderr, nofun⟩
  refine ⟨{ Clear.release hstderr with }, fun r hr => ?_⟩
  rw [← Except.ok.inj hr]
  exact Clear.outcome hstderr hcwd hcode

/-- **The end of a build** whose process could not be started. -/
theorem Clear.failToSpawn (h : s.Clear) {command : Text} (hcommand : command.Unpaired) {error : SpawnError}
    (herror : error.message.Unpaired) : (s.failToSpawn command error).2.Clear ∧
      ∀ o, (s.failToSpawn command error).1 = .ok o → Expressible o.toValue := by
  unfold Session.failToSpawn
  have hadvanced := h.advance .failedToSpawn
  generalize s.advance .failedToSpawn = r at hadvanced ⊢
  obtain ⟨_ | ⟨⟩, s₁⟩ := r
  · exact ⟨hadvanced, nofun⟩
  have hhints : ∀ t ∈ Toolchain.record s₁.findings.hints (some (.notStarted command error)), t.Unpaired := by
    intro t ht
    unfold Toolchain.record at ht
    dsimp only at ht
    split at ht
    · exact hadvanced.findings.hints t ht
    · rcases List.mem_append.1 ht with ht | ht
      · exact hadvanced.findings.hints t ht
      · rw [List.mem_singleton.1 ht]
        exact Toolchain.Hint.Unpaired.message ⟨hcommand, herror⟩
  refine ⟨Clear.release { hadvanced with findings := { hadvanced.findings with hints := hhints } }, fun o ho => ?_⟩
  rw [← Except.ok.inj ho]
  exact Outcome.expressible_toValue nofun (Diagnostics.expressible_toValue Diagnostics.grouped_empty nofun) hhints nofun

theorem exists_of_outcome?_map_some {α : Type} {x : Except Error α} {f : α → Outcome} {o : Outcome}
    (h : outcome? (x.map fun r => some (f r)) = some o) : ∃ r, x = .ok r ∧ f r = o := by
  cases x with
  | error e => cases h
  | ok r => exact ⟨r, rfl, Option.some.inj h⟩

/-- **One operation** leaves a session that has only taken what can go into a document, and its outcome can. -/
theorem Clear.perform (h : s.Clear) {op : Operation} (hop : op.Clear) :
    (s.perform op).2.Clear ∧ ∀ o, outcome? (s.perform op).1 = some o → Expressible o.toValue := by
  have hnone (result : Except Error Unit) :
      ∀ o, outcome? (result.map fun _ => none) = some o → Expressible o.toValue := by
    intro o ho
    rw [outcome?_map_none] at ho
    cases ho
  cases op with
  | markSpawning => exact ⟨h.advance .spawning, hnone _⟩
  | markStreaming => exact ⟨h.advance .streaming, hnone _⟩
  | feed stream chunk => exact ⟨h.feed hop, hnone _⟩
  | finalize cwd exitCode =>
    obtain ⟨hbehind, houtcome⟩ := h.finalize hop.1 hop.2
    refine ⟨hbehind, fun o ho => ?_⟩
    obtain ⟨r, hr, rfl⟩ := exists_of_outcome?_map_some ho
    exact houtcome r hr
  | failToSpawn command error =>
    obtain ⟨hbehind, houtcome⟩ := h.failToSpawn hop.1 hop.2
    refine ⟨hbehind, fun o ho => ?_⟩
    obtain ⟨r, hr, rfl⟩ := exists_of_outcome?_map_some (f := fun o => o) ho
    exact houtcome r hr

/-- **Operations** give outcomes that can go into a document. -/
theorem Clear.expressible_of_mem_outcomes (h : s.Clear) {ops : List Operation} (hops : ∀ op ∈ ops, op.Clear)
    {o : Outcome} (ho : o ∈ outcomes (s.results ops)) : Expressible o.toValue := by
  induction ops generalizing s with
  | nil => cases ho
  | cons op ops ih =>
    obtain ⟨hop, hops⟩ := List.forall_mem_cons.1 hops
    obtain ⟨hbehind, houtcome⟩ := h.perform hop
    rw [outcomes_cons, List.mem_append] at ho
    rcases ho with ho | ho
    · exact houtcome o (Option.mem_toList.1 ho)
    · exact ih hbehind hops ho

/-- The outcomes of operations have no diagnostic with null for its code. -/
theorem Founded.code_ne_null {s : Session} {chunks : List Chunk} (h : s.Founded chunks) {ops : List Operation}
    {o : Outcome} (ho : o ∈ outcomes (s.results ops)) : ∀ d ∈ o.diagnostics.flatten, d.code ≠ some .null := by
  induction ops generalizing s chunks with
  | nil => cases ho
  | cons op ops ih =>
    rw [outcomes_cons, List.mem_append] at ho
    rcases ho with ho | ho
    · obtain ⟨_, -, -, hsound⟩ := h.outcome (Option.mem_toList.1 ho)
      intro d hd hnull
      rcases (hsound d hd).1.documented with ⟨hnone, -⟩ | ⟨code, url, hcode, htruthy, -⟩
      · rw [hnone] at hnull
        cases hnull
      · rw [hcode] at hnull
        cases hnull
        cases htruthy
    · exact ih (h.perform op) ho

/-- **The document of an outcome**, whatever operations led to it. Where the texts that came in can go into a document and
the value of the outcome is not nested too deep, the document is read back as exactly this value: the same files in the
same order, with the same diagnostics, the same hints, artifact and exit code. And the value tells the outcome: no other
outcome of any session has the same one. -/
theorem parse_document (projectDir : Text) (criteria : Artifact.Criteria) (ops : List Operation) (o : Outcome)
    (ho : o ∈ outcomes ((new projectDir criteria).results ops)) :
    (projectDir.Unpaired → criteria.targetKind.Unpaired → (∀ op ∈ ops, op.Clear) → o.toValue.depth ≤ maxDepth →
      parse o.document = .ok o.toValue) ∧
    ∀ projectDir' criteria' ops', ∀ o' ∈ outcomes ((new projectDir' criteria').results ops'),
      o'.toValue = o.toValue → o' = o := by
  refine ⟨fun hdir hkind hops hdepth => ?_, fun projectDir' criteria' ops' o' ho' h => ?_⟩
  · exact Outcome.parse_document_of_expressible ((clear_new hdir hkind).expressible_of_mem_outcomes hops ho) hdepth
  · exact Outcome.eq_of_toValue_eq ((founded_new projectDir' criteria').code_ne_null ho')
      ((founded_new projectDir criteria).code_ne_null ho) h

/-- A failing build with one message, which has halves of surrogate pairs in its text and in the name of its file, and a
list for its code. -/
def halves : List Operation :=
  [.markSpawning, .markStreaming,
    .feed .stdout (.text "\x7b\"reason\":\"compiler-message\",\"message\":\x7b\"level\":\"error\","),
    .feed .stdout (.text "\"message\":\"wasm \\udc00\\ud800\\\"\\n\","),
    .feed .stdout (.text "\"code\":\x7b\"code\":[1.5,NaN,[\"\\ud83d\\ude00\"]]\x7d,"),
    .feed .stdout (.text "\"spans\":[\x7b\"file_name\":\"a\\ud800.rs\",\"line_start\":3\x7d]\x7d\x7d\n"),
    .feed .stderr (.bytes [0x65, 0xED, 0xA0, 0x80, 0x0A]),
    .finalize "/" 101]

/-- The halves come through the document as they are. -/
theorem parse_document_halves : ∃ o ∈ outcomes (untouched.results halves),
    o.diagnostics.files.map (·.map CodePoint.val) = [[0x61, 0xD800, 0x2E, 0x72, 0x73]] ∧
      o.diagnostics.flatten.map (fun d => d.message.map CodePoint.val) =
        [[0x77, 0x61, 0x73, 0x6D, 0x20, 0xDC00, 0xD800, 0x22, 0x0A]] ∧
      parse o.document = .ok o.toValue := by
  have hfacts : (outcomes (untouched.results halves)).map (fun o =>
      (o.diagnostics.files.map (·.map CodePoint.val), o.diagnostics.flatten.map (fun d => d.message.map CodePoint.val),
        o.toValue.depth)) =
      [([[0x61, 0xD800, 0x2E, 0x72, 0x73]], [[0x77, 0x61, 0x73, 0x6D, 0x20, 0xDC00, 0xD800, 0x22, 0x0A]], 6)] := by
    decide +kernel
  obtain ⟨o, os, houtcomes, hone, -⟩ := List.map_eq_cons_iff.1 hfacts
  obtain ⟨hfiles, hmessages, hdepth⟩ := Prod.mk.inj hone |>.imp_right Prod.mk.inj
  have ho : o ∈ outcomes (untouched.results halves) := by rw [houtcomes]; exact List.mem_cons_self
  have hclear : ∀ op ∈ halves, op.Clear := by
    have hroot : Text.Unpaired "/" := Text.unpaired_of_isScalar (by decide)
    have htext {t : Text} (h : t.isScalar = true) : (Operation.feed .stdout (.text t)).Clear := h
    simp only [halves, List.forall_mem_cons]
    exact ⟨trivial, trivial, htext (by decide), htext (by decide), htext (by decide), htext (by decide), trivial,
      ⟨hroot, by decide⟩, List.forall_mem_nil _⟩
  obtain ⟨hparse, -⟩ := parse_document "/p" Artifact.contract halves o ho
  exact ⟨o, ho, hfiles, hmessages, hparse (Text.unpaired_of_isScalar (by decide)) (Text.unpaired_of_isScalar (by decide))
    hclear (by rw [hdepth]; decide)⟩

end Session

end ContractBuild
