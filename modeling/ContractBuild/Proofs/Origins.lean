import ContractBuild.Proofs.ByFile
import ContractBuild.Proofs.Operations
import Mathlib.Data.Prod.Lex

/-!
# Where diagnostics come from

Every diagnostic of an outcome can be traced to a span of a compiler message on a line of standard output
(`Diagnostic.ReportedOn`), and whatever the span says, the diagnostic is sound (`Diagnostic.Sound`): its coordinates are
not negative, its range does not end before it starts, it has a file, and its code comes with its documentation.

* `Diagnostic.mem_ofBody`: what the diagnostics of one message are.
* `Findings.Founded.observeEach`: lines keep all that has been found sound and traced to the lines so far.
* `Session.Founded.perform`: so does an operation on a session, for the chunks of standard output that it took.
* `Session.outcome_diagnostics_founded`: what follows for the outcome of any operations.
-/

namespace ContractBuild

/-! ## One span -/

namespace Diagnostic

/-- What holds of a diagnostic whatever its span says. -/
structure Sound (d : Diagnostic) : Prop where
  start_nonneg : 0 ≤ d.range.start.line ∧ 0 ≤ d.range.start.character
  stop_nonneg : 0 ≤ d.range.stop.line ∧ 0 ≤ d.range.stop.character
  ordered : toLex (d.range.start.line, d.range.start.character) ≤ toLex (d.range.stop.line, d.range.stop.character)
  file_ne_nil : d.file ≠ []
  documented : (d.code = none ∧ d.documentation = none) ∨
    ∃ code url, d.code = some code ∧ code.isTruthy = true ∧ d.documentation = some url

/-- A diagnostic is that of a span: the message is a compiler message at the level of the diagnostic, and the span is
one of its spans, names the file and is not marked as one that is not primary. -/
structure OfSpan (d : Diagnostic) (m : Message) (body span : List (Text × Value)) (spans : List Value) : Prop where
  kind : m.kind = .compilerDiagnostic
  body_eq : m.field? "message" = some (.map body)
  level_eq : Value.entry? "level" body = some (.text d.severity.name)
  spans_eq : Value.entry? "spans" body = some (.list spans)
  span_mem : .map span ∈ spans
  primary : Value.entry? "is_primary" span ≠ some (.bool false)
  file_eq : Value.entry? "file_name" span = some (.text d.file)
  range_eq : d.range = spanRange span

/-- A line has the message of a diagnostic. -/
def ReportedOn (d : Diagnostic) (line : Text) : Prop :=
  ∃ m body span spans, Message.ofLine? line = .ok (some m) ∧ d.OfSpan m body span spans

theorem position_nonneg (line column : Int) :
    0 ≤ (position line column).line ∧ 0 ≤ (position line column).character :=
  ⟨Int.le_max_left _ _, Int.le_max_left _ _⟩

/-- A position that is not before another one is not smaller. -/
theorem toLex_le_of_not_isBefore {p q : Position} (h : q.isBefore p = false) :
    toLex (p.line, p.character) ≤ toLex (q.line, q.character) := by
  rw [Prod.Lex.toLex_le_toLex]
  simp only [Position.isBefore, Bool.or_eq_false_iff, decide_eq_false_iff_not, Bool.and_eq_false_iff] at h
  dsimp only
  omega

/-- **The range of a span** has no negative coordinates and does not end before it starts. -/
theorem spanRange_spec (span : List (Text × Value)) :
    (0 ≤ (spanRange span).start.line ∧ 0 ≤ (spanRange span).start.character) ∧
      (0 ≤ (spanRange span).stop.line ∧ 0 ≤ (spanRange span).stop.character) ∧
      toLex ((spanRange span).start.line, (spanRange span).start.character) ≤
        toLex ((spanRange span).stop.line, (spanRange span).stop.character) := by
  refine ⟨position_nonneg _ _, ?_⟩
  unfold spanRange
  dsimp only
  split
  · exact ⟨position_nonneg _ _, le_refl _⟩
  · rename_i hbefore
    exact ⟨position_nonneg _ _, toLex_le_of_not_isBefore (Bool.eq_false_iff.2 hbefore)⟩

/-- A span that gives a diagnostic names a file and is not marked as one that is not primary. -/
theorem spanFile?_eq_some {span : List (Text × Value)} {file : Text} (h : spanFile? span = some file) :
    Value.entry? "is_primary" span ≠ some (.bool false) ∧ Value.entry? "file_name" span = some (.text file) ∧
      file ≠ [] := by
  unfold spanFile? at h
  split at h
  · cases h
  · rename_i hprimary
    split at h
    · rename_i t ht
      split at h
      · cases h
      · rename_i hne
        obtain rfl : t = file := Option.some.inj h
        exact ⟨hprimary, ht, by simpa using hne⟩
    · cases h

theorem ofSpan?_eq_some {severity : Severity} {text : Text} {code : Option Value} {documentation : Option Text}
    {v : Value} {d : Diagnostic} (h : ofSpan? severity text code documentation v = some d) :
    ∃ span, v = .map span ∧ spanFile? span = some d.file ∧ d.range = spanRange span ∧ d.severity = severity ∧
      d.code = code ∧ d.documentation = documentation := by
  cases v with
  | map span =>
    obtain ⟨file, hfile, rfl⟩ := Option.map_eq_some_iff.1 h
    exact ⟨span, rfl, hfile, rfl, rfl, rfl, rfl⟩
  | null | bool _ | int _ | float _ | text _ | list _ => cases h

/-! ## One message -/

theorem isTruthy_codeOf (body : List (Text × Value)) : (codeOf body).isTruthy = true := by
  have hchoice (code : Value) :
      (if code.isTruthy then code else .text Documentation.defaultCode).isTruthy = true := by
    by_cases h : code.isTruthy = true
    · rw [if_pos h]
      exact h
    · rw [if_neg h]
      rfl
  exact hchoice _

/-- **A diagnostic of a message body** is that of one of its spans, and has code and documentation or neither. -/
theorem mem_ofBody {body : List (Text × Value)} {spans : List Value} {severity : Severity} {d : Diagnostic}
    (h : d ∈ ofBody body spans severity) :
    (∃ span, .map span ∈ spans ∧ spanFile? span = some d.file ∧ d.range = spanRange span) ∧ d.severity = severity ∧
      ((d.code = none ∧ d.documentation = none) ∨
        ∃ code url, d.code = some code ∧ code.isTruthy = true ∧ d.documentation = some url) := by
  unfold ofBody at h
  dsimp only at h
  split at h
  · obtain ⟨v, hv, hd⟩ := List.mem_filterMap.1 h
    obtain ⟨span, rfl, hfile, hrange, hseverity, hcode, hdoc⟩ := ofSpan?_eq_some hd
    exact ⟨⟨span, hv, hfile, hrange⟩, hseverity, .inl ⟨hcode, hdoc⟩⟩
  · obtain ⟨v, hv, hd⟩ := List.mem_filterMap.1 h
    obtain ⟨span, rfl, hfile, hrange, hseverity, hcode, hdoc⟩ := ofSpan?_eq_some hd
    exact ⟨⟨span, hv, hfile, hrange⟩, hseverity, .inr ⟨_, _, hcode, isTruthy_codeOf body, hdoc⟩⟩

/-- A level that gives a severity is its name. -/
theorem severityOf?_eq_some {level : Option Value} {severity : Severity} (h : severityOf? level = .ok (some severity)) :
    level = some (.text severity.name) := by
  rcases level with _ | v
  · cases h
  · cases v with
    | text t =>
      simp only [severityOf?, Severity.ofName?, Except.ok.injEq] at h
      split at h
      · rename_i ht
        cases h
        rw [ht]
        rfl
      · split at h
        · rename_i ht
          cases h
          rw [ht]
          rfl
        · cases h
    | null | bool _ | int _ | float _ | list _ | map _ => cases h

/-- **The diagnostics of a message** are sound, and each is that of a span. -/
theorem mem_ofMessage {m : Message} {ds : List Diagnostic} (h : ofMessage m = .ok ds) {d : Diagnostic} (hd : d ∈ ds) :
    d.Sound ∧ ∃ body span spans, d.OfSpan m body span spans := by
  rcases Reading.ofMessage_cases m with hnil | ⟨body, s, ss, hkind, hbody, hspans, heq⟩
  · rw [hnil] at h
    cases h
    cases hd
  · rw [heq] at h
    cases hlevel : severityOf? (Value.entry? "level" body) with
    | error e => rw [hlevel] at h; cases h
    | ok severity? =>
      rw [hlevel] at h
      cases severity? with
      | none => cases h; cases hd
      | some severity =>
        cases h
        obtain ⟨⟨span, hspan, hfile, hrange⟩, hseverity, hdocumented⟩ := mem_ofBody hd
        obtain ⟨hprimary, hname, hne⟩ := spanFile?_eq_some hfile
        obtain ⟨hstart, hstop, hordered⟩ := spanRange_spec span
        rw [← hrange] at hstart hstop hordered
        refine ⟨⟨hstart, hstop, hordered, hne, hdocumented⟩, body, span, s :: ss, ?_⟩
        exact ⟨hkind, hbody, by rw [hseverity]; exact severityOf?_eq_some hlevel, hspans, hspan, hprimary, hname,
          hrange⟩

end Diagnostic

/-! ## Lines -/

/-- The diagnostics of a line are sound and reported on it. -/
theorem Reading.mem_diagnostics {line : Text} {r : Reading} (h : ofLine line = .ok r) {d : Diagnostic}
    (hd : d ∈ r.diagnostics) : d.Sound ∧ d.ReportedOn line := by
  obtain ⟨-, rfl⟩ | ⟨m, ds, hm, hds, rfl⟩ := ofLine_eq_ok h
  · cases hd
  · obtain ⟨hsound, body, span, spans, hspan⟩ := Diagnostic.mem_ofMessage hds hd
    exact ⟨hsound, m, body, span, spans, hm, hspan⟩

namespace Findings

/-- All diagnostics that have been found are grouped, sound, and reported on one of the given lines. -/
structure Founded (f : Findings) (lines : List Text) : Prop where
  grouped : f.diagnostics.Grouped
  reported : ∀ d ∈ f.diagnostics.flatten, d.Sound ∧ ∃ line ∈ lines, d.ReportedOn line

theorem founded_empty : empty.Founded [] := ⟨Diagnostics.grouped_empty, nofun⟩

variable {f f' : Findings} {lines : List Text}

theorem Founded.append (h : f.Founded lines) (more : List Text) : f.Founded (lines ++ more) where
  grouped := h.grouped
  reported d hd := by
    obtain ⟨hsound, line, hline, hreported⟩ := h.reported d hd
    exact ⟨hsound, line, List.mem_append_left more hline, hreported⟩

/-- What is found on a line joins what was found before it. -/
theorem Founded.addAll (h : f.Founded lines) {ds : List Diagnostic}
    (hdiagnostics : f'.diagnostics = f.diagnostics.addAll ds) {line : Text}
    (hds : ∀ d ∈ ds, d.Sound ∧ d.ReportedOn line) : f'.Founded (lines ++ [line]) where
  grouped := by rw [hdiagnostics]; exact h.grouped.addAll ds
  reported d hd := by
    rw [hdiagnostics, (Diagnostics.flatten_addAll_perm _ _).mem_iff, List.mem_append] at hd
    rcases hd with hd | hd
    · exact (h.append [line]).reported d hd
    · exact ⟨(hds d hd).1, line, List.mem_append_right lines List.mem_cons_self, (hds d hd).2⟩

/-- **One line** keeps what has been found founded. -/
theorem Founded.observe (h : f.Founded lines) {stream : Stream} {line : Text} (hf : f.observe line stream = .ok f') :
    f'.Founded (lines ++ Stream.stdout.select [(stream, line)]) := by
  obtain ⟨r, hextends, ⟨rfl, rfl⟩ | ⟨rfl, hr⟩⟩ := exists_extends_of_observe hf
  · have hsame : f'.diagnostics = f.diagnostics := hextends.diagnostics
    refine ⟨by rw [hsame]; exact h.grouped, fun d hd => ?_⟩
    rw [hsame] at hd
    exact (h.append _).reported d hd
  · exact h.addAll hextends.diagnostics fun d hd => Reading.mem_diagnostics hr hd

/-- **Lines** keep what has been found founded, also when one of them cannot be taken. -/
theorem Founded.observeEach (h : f.Founded lines) (ls : List (Stream × Text)) :
    (f.observeEach ls).2.Founded (lines ++ Stream.stdout.select ls) := by
  induction ls generalizing f lines with
  | nil => simpa [Findings.observeEach] using h
  | cons l ls ih =>
    obtain ⟨stream, line⟩ := l
    rw [Findings.observeEach]
    cases hf : f.observe line stream with
    | error e => exact h.append _
    | ok f' =>
      have hrest := ih (h.observe hf)
      rw [List.append_assoc, ← Stream.select_append] at hrest
      exact hrest

end Findings

/-! ## Operations -/

/-- A chunk more is taken behind the others. -/
theorem LineBuffer.feedAll_concat {b b' : LineBuffer} {chunks : List Chunk} {lines : List Text}
    (hb : b.finished = false) (h : b.feedAll chunks = .ok (lines, b')) (c : Chunk) :
    b.feedAll (chunks ++ [c]) = .ok (lines ++ (b'.take c).1, (b'.take c).2) := by
  induction chunks generalizing b lines with
  | nil =>
    cases h
    simp [feedAll, feed, hb, Except.map]
  | cons c' cs ih =>
    have hfeed : b.feed c' = .ok (b.take c') := by simp [feed, hb]
    have hnext : (b.take c').2.finished = false := by rw [take_eq]; exact hb
    rw [feedAll, hfeed] at h
    rw [List.cons_append, feedAll, hfeed]
    dsimp only at h ⊢
    cases hrest : (b.take c').2.feedAll cs with
    | error e => rw [hrest] at h; cases h
    | ok r =>
      rw [hrest] at h
      cases h
      rw [ih hnext hrest]
      simp [Except.map]

namespace Session

/-- The chunk of standard output that an operation took. -/
def takenBy : Operation × Except Error (Option Outcome) → Option Chunk
  | (.feed .stdout chunk, result) => if isRefusal result then none else some chunk
  | _ => none

/-- The chunks of standard output that operations took. -/
def taken (results : List (Operation × Except Error (Option Outcome))) : List Chunk := results.filterMap takenBy

/-- What a session has found is founded on the lines of the chunks that it took, as long as an operation may come. -/
def Founded (s : Session) (chunks : List Chunk) : Prop :=
  ∀ k : Step, s.phase = k.source →
    ∃ lines, LineBuffer.empty.feedAll chunks = .ok (lines, s.stdout) ∧ s.findings.Founded lines

theorem founded_new (projectDir : Text) (criteria : Artifact.Criteria) : (new projectDir criteria).Founded [] :=
  fun _ _ => ⟨[], rfl, Findings.founded_empty⟩

theorem founded_of_closed {s : Session} (h : Closed s.phase) (chunks : List Chunk) : s.Founded chunks :=
  fun k hk => absurd hk (h k)

/-- A chunk of an output is founded on the lines that it ends, when it is one of standard output. -/
theorem founded_feed {s : Session} {lines : List Text} {chunks : List Chunk} (hphase : s.phase = .streaming)
    (hlines : LineBuffer.empty.feedAll chunks = .ok (lines, s.stdout)) (hf : s.findings.Founded lines)
    (stream : Stream) (c : Chunk) :
    (s.feed stream c).2.Founded (chunks ++ if stream = .stdout then [c] else []) := by
  intro _ _
  rw [feed_eq hphase, observe_eq]
  have hfounded := hf.observeEach (stream.tag ((s.buffer stream).take c).1)
  cases stream with
  | stdout => exact ⟨_, LineBuffer.feedAll_concat rfl hlines c, by simpa [buffer] using hfounded⟩
  | stderr => exact ⟨lines, by simpa [setBuffer] using hlines, by simpa using hfounded⟩

/-- An operation that takes no chunk keeps what has been found. -/
theorem Performed.founded {s s' : Session} {op : Operation} {result : Except Error (Option Outcome)}
    {chunks : List Chunk} (hop : Performed s op result s') (hchunk : ∀ stream c, op ≠ .feed stream c)
    (h : s.Founded chunks) : s'.Founded chunks := by
  cases hop with
  | refused => exact h
  | spawning phase => exact fun _ _ => h .spawning phase
  | streaming phase => exact fun _ _ => h .streaming phase
  | fed => exact absurd rfl (hchunk _ _)
  | stuck _ phase' => exact founded_of_closed (by rw [phase']; exact closed_finalizing) chunks
  | finished _ _ phase' | notStarted _ phase' => exact founded_of_closed (closed_of_isLast (by rw [phase']; rfl)) chunks

/-- **An operation** keeps what has been found founded. -/
theorem Founded.perform {s : Session} {chunks : List Chunk} (h : s.Founded chunks) (op : Operation) :
    (s.perform op).2.Founded (chunks ++ taken [(op, (s.perform op).1)]) := by
  have hop := performed s op
  cases op with
  | feed stream c =>
    by_cases hphase : s.phase = .streaming
    · obtain ⟨lines, hlines, hf⟩ := h (.feed stream) hphase
      have hrefusal : isRefusal (s.perform (.feed stream c)).1 = false := by
        rw [hop.isRefusal_eq]
        exact decide_eq_false (not_not_intro hphase)
      have htaken : taken [(.feed stream c, (s.perform (.feed stream c)).1)] =
          if stream = .stdout then [c] else [] := by
        cases stream <;> simp [taken, takenBy, hrefusal]
      rw [htaken]
      exact founded_feed hphase hlines hf stream c
    · rw [perform_of_ne hphase]
      have hnone : taken [(.feed stream c, .error (.order s.phase (Operation.feed stream c).step.target))] = [] := by
        cases stream <;> rfl
      rw [hnone, List.append_nil]
      exact h
  | markSpawning | markStreaming | finalize _ _ | failToSpawn _ _ =>
    rw [taken, List.filterMap_cons_none rfl, List.filterMap_nil, List.append_nil]
    exact hop.founded nofun h

/-- **Operations** keep what has been found founded. -/
theorem Founded.behind {s : Session} {chunks : List Chunk} (h : s.Founded chunks) (ops : List Operation) :
    (s.behind ops).Founded (chunks ++ taken (s.results ops)) := by
  induction ops generalizing s chunks with
  | nil => simpa [Session.behind, results, performAll, taken] using h
  | cons op ops ih =>
    have hrest := ih (h.perform op)
    rw [List.append_assoc, taken, taken, ← List.filterMap_append] at hrest
    exact hrest

/-! ## Outcomes -/

theorem outcome?_map_none (result : Except Error Unit) : outcome? (result.map fun _ => none) = none := by
  cases result <;> rfl

/-- The diagnostics of an outcome are grouped, sound, and reported on the lines of the chunks that were taken. -/
theorem Founded.outcome {s : Session} {chunks : List Chunk} (h : s.Founded chunks) {op : Operation} {o : Outcome}
    (ho : outcome? (s.perform op).1 = some o) :
    ∃ lines, LineBuffer.run chunks = .ok lines ∧ o.diagnostics.Grouped ∧
      ∀ d ∈ o.diagnostics.flatten, d.Sound ∧ ∃ line ∈ lines, d.ReportedOn line := by
  have hphase : s.phase = op.step.source := by
    by_contra hne
    rw [perform_of_ne hne] at ho
    cases ho
  obtain ⟨lines, hlines, hf⟩ := h op.step hphase
  have hrun : LineBuffer.run chunks = .ok (lines ++ s.stdout.finish.1) := by rw [LineBuffer.run, hlines]; rfl
  refine ⟨_, hrun, ?_⟩
  cases op with
  | finalize cwd exitCode =>
    have hfounded := hf.observeEach (linesFrom s.stdout s.stderr [])
    rw [Session.perform, finalize_eq hphase] at ho
    rcases hobserve : s.findings.observeEach (linesFrom s.stdout s.stderr []) with ⟨e | ⟨⟩, f⟩
    · rw [hobserve] at ho
      cases ho
    · rw [hobserve] at ho hfounded
      cases ho
      have hselect : Stream.stdout.select (linesFrom s.stdout s.stderr []) = s.stdout.finish.1 := by
        simp [linesFrom]
      rw [hselect] at hfounded
      exact ⟨hfounded.grouped, hfounded.reported⟩
  | failToSpawn command error =>
    have hempty : o.diagnostics = .empty := by
      have hgo : s.advance .failedToSpawn = (.ok (), { s with phase := .failedToSpawn }) :=
        advance_of_next (by rw [hphase]; rfl)
      rw [Session.perform, failToSpawn, hgo] at ho
      cases ho
      rfl
    rw [hempty]
    exact ⟨Diagnostics.grouped_empty, fun d hd => absurd hd List.not_mem_nil⟩
  | markSpawning | markStreaming | feed _ _ =>
    rw [Session.perform, outcome?_map_none] at ho
    cases ho

/-- **The diagnostics of an outcome**, whatever operations led to it. They are grouped by file, each file once and with
diagnostics. Each diagnostic stands under its own file, is sound, and comes from a line that the session had from the
chunks of standard output that it took: there is a compiler message at its level, with a span that names the file and is
not marked as one that is not primary. -/
theorem outcome_diagnostics_founded (projectDir : Text) (criteria : Artifact.Criteria) (ops : List Operation)
    (op : Operation) (o : Outcome) (ho : outcome? (((new projectDir criteria).behind ops).perform op).1 = some o) :
    ∃ lines, LineBuffer.run (taken ((new projectDir criteria).results ops)) = .ok lines ∧ o.diagnostics.files.Nodup ∧
      ∀ file ds, (file, ds) ∈ o.diagnostics.groups → ds ≠ [] ∧
        ∀ d ∈ ds, d.file = file ∧ d.Sound ∧ ∃ line ∈ lines, d.ReportedOn line := by
  obtain ⟨lines, hlines, hgrouped, hreported⟩ := ((founded_new projectDir criteria).behind ops).outcome ho
  refine ⟨lines, hlines, hgrouped.nodup, fun file ds hg => ⟨hgrouped.nonempty _ hg, fun d hd => ?_⟩⟩
  exact ⟨Option.some.inj (hgrouped.own _ hg d hd), hreported d (List.mem_flatMap.2 ⟨_, hg, hd⟩)⟩

/-- A build that warns about four spans, on a line that comes in pieces and is still open at its end: one that ends
before it starts, one that is not primary, one without a file, and one without coordinates. -/
def warning : List Operation :=
  [.markSpawning, .markStreaming,
    .feed .stdout (.text "\x7b\"reason\":\"compiler-message\",\"message\":\x7b\"level\":\"warning\",\"spans\":["),
    .feed .stdout (.text "\x7b\"file_name\":\"a.rs\",\"line_start\":7,\"line_end\":2,\"column_start\":-4\x7d,"),
    .feed .stdout (.text "\x7b\"file_name\":\"b.rs\",\"is_primary\":false\x7d,\x7b\"file_name\":\"\"\x7d,"),
    .feed .stdout (.text "\x7b\"file_name\":\"c.rs\",\"is_primary\":null\x7d]\x7d\x7d")]

/-- The ranges of the first and the last of these spans, by file. -/
def warnedRanges : List (Text × List SourceRange) :=
  [("a.rs", [⟨⟨6, 0⟩, ⟨6, 0⟩⟩]), ("c.rs", [⟨⟨0, 0⟩, ⟨0, 0⟩⟩])]

/-- The first and the last of these spans give diagnostics. -/
theorem outcome_diagnostics_founded_warning :
    ∃ o lines, outcome? ((untouched.behind warning).perform (.finalize "/" 101)).1 = some o ∧
      o.diagnostics.groups.map (fun g => (g.1, g.2.map Diagnostic.range)) = warnedRanges ∧
      LineBuffer.run (taken (untouched.results warning)) = .ok lines ∧
      ∀ file ds, (file, ds) ∈ o.diagnostics.groups → ds ≠ [] ∧
        ∀ d ∈ ds, d.file = file ∧ d.Sound ∧ ∃ line ∈ lines, d.ReportedOn line := by
  have hranges : (outcome? ((untouched.behind warning).perform (.finalize "/" 101)).1).map
      (fun o => o.diagnostics.groups.map fun g => (g.1, g.2.map Diagnostic.range)) = some warnedRanges := by
    decide +kernel
  obtain ⟨o, ho, hgroups⟩ := Option.map_eq_some_iff.1 hranges
  obtain ⟨lines, hlines, -, hfounded⟩ :=
    outcome_diagnostics_founded "/p" Artifact.contract warning (.finalize "/" 101) o ho
  exact ⟨o, lines, ho, hgroups, hlines, hfounded⟩

end Session

end ContractBuild
