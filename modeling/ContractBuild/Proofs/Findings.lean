import ContractBuild.Proofs.Complaints
import ContractBuild.Proofs.Json.Expressible
import ContractBuild.Proofs.SpanDiagnostics
import ContractBuild.Proofs.Surrogates

/-!
# What is found can be put into a document

What a build finds on its lines has values that can be printed and read back (`Json.Expressible`). Messages are read from
lines without surrogates, so their parts are expressible, and what is made from these parts is expressible too: the
positions of spans, whose numbers do not grow, and the names in hints, which have ASCII texts around them.

* `Diagnostic.expressible_of_mem_ofMessage`: the diagnostics of a message.
* `Toolchain.unpaired_of_ofLine?`, `Toolchain.unpaired_of_ofMessage?`: the names in the hint of a line or a message.
* `Findings.Expressible.observe`, `Findings.Expressible.observeEach`: one line, and then many.
-/

namespace ContractBuild

open Json

/-! ## Diagnostics -/

namespace Diagnostic

theorem expressible_coordinate {n : Int} (hn : Expressible (.int n)) {span : List (Text × Value)}
    (hspan : Expressible (.map span)) (key : Text) : Expressible (.int (coordinate n (Value.entry? key span))) := by
  unfold coordinate
  split
  · rename_i k hk
    split
    · exact hn
    · exact hspan.entry hk
  · exact hn

/-- A position has no more digits than the line and the column that it is made from. -/
theorem expressible_position {line column : Int} (hline : Expressible (.int line)) (hcolumn : Expressible (.int column)) :
    Expressible (position line column).toValue := by
  have hpred {n : Int} (hn : Expressible (.int n)) : Expressible (.int (max 0 (n - 1))) :=
    expressible_int_of_le hn (by omega)
  refine expressible_record ["line", "character"] (by decide) rfl ?_
  exact List.forall_mem_cons.2 ⟨hpred hline, List.forall_mem_singleton.2 (hpred hcolumn)⟩

/-- **The range of a span** is expressible when the span is. -/
theorem expressible_spanRange {span : List (Text × Value)} (h : Expressible (.map span)) :
    Expressible (spanRange span).start.toValue ∧ Expressible (spanRange span).stop.toValue := by
  have hone : Expressible (.int 1) := expressible_int (by decide)
  have hline := expressible_coordinate hone h "line_start"
  have hcolumn := expressible_coordinate hone h "column_start"
  have hstart := expressible_position hline hcolumn
  refine ⟨hstart, ?_⟩
  unfold spanRange
  dsimp only
  split
  · exact hstart
  · exact expressible_position (expressible_coordinate hline h "line_end") (expressible_coordinate hcolumn h "column_end")

theorem unpaired_displayText {body : List (Text × Value)} (h : Expressible (.map body)) : (displayText body).Unpaired := by
  have hshows := shows_displayText body
  generalize displayText body = t at hshows ⊢
  cases hshows with
  | rendered rendered => exact (h.entry rendered).unpaired
  | bare _ bare => exact (h.entry bare).unpaired
  | nothing => exact .nil

/-- The code of a message is passed on, or it is the one for messages that have none. -/
theorem expressible_codeOf {body : List (Text × Value)} (h : Expressible (.map body)) : Expressible (codeOf body) := by
  have hdefault : Expressible (.text Documentation.defaultCode) :=
    expressible_text (Text.unpaired_of_isScalar (by decide))
  have hchoice {code : Value} (hcode : Expressible code) :
      Expressible (if code.isTruthy then code else .text Documentation.defaultCode) := by
    split
    · exact hcode
    · exact hdefault
  refine hchoice ?_
  split
  · rename_i info hinfo
    cases hcode : Value.entry? "code" info with
    | none => exact expressible_null
    | some code => exact (h.entry hinfo).entry hcode
  · exact expressible_null

/-- What a diagnostic has from the body of its message. -/
theorem shared_of_mem_ofBody {body : List (Text × Value)} {spans : List Value} {severity : Severity} {d : Diagnostic}
    (h : d ∈ ofBody body spans severity) : d.message = displayText body ∧
      ((d.code = none ∧ d.documentation = none) ∨
        d.code = some (codeOf body) ∧ ∃ s ∈ Documentation.subjects, d.documentation = some s.url) := by
  unfold ofBody at h
  dsimp only at h
  split at h
  · obtain ⟨-, htext, hcode, hdoc⟩ := shared_of_mem_filterMap _ _ _ _ h
    exact ⟨htext, .inl ⟨hcode, hdoc⟩⟩
  · rename_i subject hsubject
    obtain ⟨-, htext, hcode, hdoc⟩ := shared_of_mem_filterMap _ _ _ _ h
    unfold Documentation.ofText? at hsubject
    exact ⟨htext, .inr ⟨hcode, subject, List.mem_of_find?_eq_some hsubject, hdoc⟩⟩

/-- **A diagnostic** is expressible when the body of its message is. -/
theorem expressible_of_mem_ofBody {body : List (Text × Value)} (hbody : Expressible (.map body)) {spans : List Value}
    (hspans : Expressible (.list spans)) {severity : Severity} {d : Diagnostic} (h : d ∈ ofBody body spans severity) :
    Expressible d.toValue := by
  obtain ⟨⟨span, hspan, hfile, hrange⟩, -, -⟩ := mem_ofBody h
  obtain ⟨htext, hdocumented⟩ := shared_of_mem_ofBody h
  have hspan : Expressible (.map span) := hspans.item hspan
  have hsubjects : ∀ s ∈ Documentation.subjects, s.url.isScalar = true := by decide
  have hname : Expressible (.text d.severity.name) :=
    expressible_text (Text.unpaired_of_isScalar (by cases d.severity <;> rfl))
  obtain ⟨hstart, hstop⟩ := expressible_spanRange hspan
  rw [← hrange] at hstart hstop
  have hrangeValue : Expressible (.map [("start", d.range.start.toValue), ("end", d.range.stop.toValue)]) :=
    expressible_record ["start", "end"] (by decide) rfl
      (List.forall_mem_cons.2 ⟨hstart, List.forall_mem_singleton.2 hstop⟩)
  have hcode : Expressible (d.code.getD .null) ∧ Expressible (.ofText? d.documentation) := by
    rcases hdocumented with ⟨hcode, hdoc⟩ | ⟨hcode, subject, hsubject, hdoc⟩
    · rw [hcode, hdoc]
      exact ⟨expressible_null, expressible_null⟩
    · rw [hcode, hdoc]
      exact ⟨expressible_codeOf hbody, expressible_text (Text.unpaired_of_isScalar (hsubjects subject hsubject))⟩
  refine expressible_record ["file_path", "range", "severity", "message", "code", "documentation_url"] (by decide) rfl ?_
  simp only [List.map_cons, List.map_nil, List.forall_mem_cons]
  refine ⟨hspan.entry (spanFile?_eq_some hfile).2.1, hrangeValue, hname, expressible_text ?_, hcode.1, hcode.2,
    List.forall_mem_nil _⟩
  rw [htext]
  exact unpaired_displayText hbody

/-- **The diagnostics of a message** are expressible when the message is. -/
theorem expressible_of_mem_ofMessage {m : Message} (hm : Expressible (.map m.fields)) {ds : List Diagnostic}
    (h : ofMessage m = .ok ds) {d : Diagnostic} (hd : d ∈ ds) : Expressible d.toValue := by
  by_cases hreports : ∃ severity body spans, m.Reports severity body spans
  · obtain ⟨severity, body, spans, hreports⟩ := hreports
    rw [ofMessage_of_reports hreports, Except.ok.injEq] at h
    have hbody : Expressible (.map body) := hm.entry hreports.body_eq
    rw [← h] at hd
    exact expressible_of_mem_ofBody hbody (hbody.entry hreports.spans_eq) hd
  · rw [ofMessage_of_not_reports hreports h] at hd
    cases hd

end Diagnostic

/-! ## Hints -/

namespace Toolchain

/-- The names in a hint make no surrogate pair. -/
def Hint.Unpaired : Hint → Prop
  | .missingToolchain name | .missingSubcommand name | .missingLinker name => name.Unpaired
  | .notStarted command error => command.Unpaired ∧ error.message.Unpaired
  | .missingTarget | .missingManifest => True

/-- Two names in a sentence. -/
theorem unpaired_sentence {t u : Text} (ht : t.Unpaired) (hu : u.Unpaired) {first second last : Text}
    (h : first.isScalar = true ∧ (second.isScalar = true ∧ second ≠ []) ∧ last.isScalar = true) :
    (first ++ t ++ second ++ u ++ last).Unpaired := by
  obtain ⟨hfirst, ⟨hsecond, hne⟩, hlast⟩ := h
  have hbegun := Text.unpaired_of_isScalar_append hfirst ht
  exact Text.unpaired_append_of_isScalar (Text.unpaired_between hsecond hne hbegun hu) hlast

/-- **The wording of a hint** makes no pair when its names make none. -/
theorem Hint.Unpaired.message {hint : Hint} (h : hint.Unpaired) : hint.message.Unpaired := by
  have hone {t : Text} (ht : t.Unpaired) {first last : Text} (hends : first.isScalar = true ∧ last.isScalar = true) :
      (first ++ t ++ last).Unpaired :=
    Text.unpaired_append_of_isScalar (Text.unpaired_of_isScalar_append hends.1 ht) hends.2
  cases hint with
  | missingTarget | missingManifest => exact Text.unpaired_of_isScalar (by decide)
  | missingToolchain name => exact unpaired_sentence h h (by decide)
  | missingSubcommand name | missingLinker name => exact hone h (by decide)
  | notStarted command error => exact unpaired_sentence h.1 h.2 (by decide)

theorem infix_of_firstNamed_encloses {before after line name : Text} {quote : CodePoint}
    (h : Text.FirstNamed (Encloses before quote after) line name) : name <:+: line := by
  obtain ⟨earlier, rest, rfl, ⟨-, -, hrest⟩, -⟩ := h
  have hname : name <:+: before ++ name ++ after := ⟨before, after, rfl⟩
  exact (hname.trans hrest.isInfix).trans (List.suffix_append earlier rest).isInfix

theorem infix_of_firstNamed_subcommand {line name : Text} (h : Text.FirstNamed SubcommandPhrase line name) :
    name <:+: line := by
  obtain ⟨earlier, rest, rfl, ⟨sub, colon, space, quote, after, rfl, -⟩, -⟩ := h
  refine ⟨earlier ++ "no such " ++ sub ++ "command" ++ colon ++ space ++ quote, after, ?_⟩
  simp only [List.append_assoc]

/-- **The hint of a line** has its names from the line. -/
theorem unpaired_of_ofLine? {line : Text} (hline : line.Unpaired) {hint : Hint} (h : Hint.ofLine? line = some hint) :
    hint.Unpaired := by
  have htells := tells_ofLine? line
  rw [h] at htells
  cases htells with
  | target | manifest => trivial
  | toolchain _ found => exact Text.unpaired_of_infix (infix_of_firstNamed_encloses found) hline
  | subcommand _ _ found => exact Text.unpaired_of_infix (infix_of_firstNamed_subcommand found) hline
  | linker _ _ _ found => exact Text.unpaired_of_infix (infix_of_firstNamed_encloses found) hline

/-- **The hint of a message** has its names from the texts of the message. -/
theorem unpaired_of_ofMessage? {m : Message} (hm : Expressible (.map m.fields)) {hint : Hint}
    (h : Hint.ofMessage? m = some hint) : hint.Unpaired := by
  obtain ⟨body, hbody, hfound⟩ := Option.bind_eq_some_iff.1 h
  obtain ⟨line, hline, hhint⟩ := List.exists_of_findSome?_eq_some hfound
  have hvalue : Expressible (.map body) := hm.entry (bodyWithoutSpans?_eq_some_iff.1 hbody).body_eq
  have hlines {key : Text} (hline : line ∈ Hint.linesOf key body) : line.Unpaired := by
    unfold Hint.linesOf at hline
    split at hline
    · rename_i t ht
      exact Text.unpaired_of_infix (Text.infix_of_mem_lines hline) (hvalue.entry ht).unpaired
    · cases hline
  refine unpaired_of_ofLine? ?_ hhint
  rcases List.mem_append.1 hline with hline | hline
  · exact hlines hline
  · exact hlines hline

end Toolchain

/-! ## Findings -/

theorem Message.expressible_of_ofLine? {line : Text} (hline : line.isScalar = true) {m : Message}
    (h : ofLine? line = .ok (some m)) : Expressible (.map m.fields) := by
  unfold ofLine? at h
  split at h
  · rename_i v hv
    obtain rfl := Option.some.inj (Except.ok.inj h)
    have hvalue := expressible_of_parse hline hv
    cases v with
    | map entries => exact hvalue
    | null | bool _ | int _ | float _ | text _ | list _ => exact ⟨1, .map List.nodup_nil nofun nofun⟩
  · cases h
  · cases h

namespace Findings

/-- What has been found can be put into a document: the diagnostics by file, the announcements of artifacts, from which
the path is taken, and the hints. -/
structure Expressible (f : Findings) : Prop where
  grouped : f.diagnostics.Grouped
  diagnostics : ∀ d ∈ f.diagnostics.flatten, Json.Expressible d.toValue
  artifacts : ∀ m ∈ f.artifacts, Json.Expressible (.map m.fields)
  hints : ∀ t ∈ f.hints, t.Unpaired

theorem expressible_empty : empty.Expressible := ⟨Diagnostics.grouped_empty, nofun, nofun, nofun⟩

variable {f f' : Findings}

/-- What is found joins what was found before it. -/
theorem Expressible.extend (h : f.Expressible) {ds : List Diagnostic} {ms : List Message} {hs : List Toolchain.Hint}
    (hextends : Extends f f' ds ms hs) (hds : ∀ d ∈ ds, Json.Expressible d.toValue)
    (hms : ∀ m ∈ ms, Json.Expressible (.map m.fields)) (hhs : ∀ hint ∈ hs, hint.Unpaired) : f'.Expressible where
  grouped := by rw [hextends.diagnostics]; exact h.grouped.addAll ds
  diagnostics d hd := by
    rw [hextends.diagnostics, (Diagnostics.flatten_addAll_perm _ _).mem_iff, List.mem_append] at hd
    exact hd.elim (h.diagnostics d) (hds d)
  artifacts m hm := by
    rw [hextends.artifacts, List.mem_append] at hm
    exact hm.elim (h.artifacts m) (hms m)
  hints t ht := by
    rw [hextends.hints, Toolchain.foldl_record, List.mem_append, List.mem_eraseDups] at ht
    rcases ht with ht | ht
    · exact h.hints t ht
    · obtain ⟨hint, hhint, rfl⟩ := List.mem_map.1 (List.mem_filter.1 ht).1
      exact (hhs hint hhint).message

/-- **One line** without surrogates. -/
theorem Expressible.observe (h : f.Expressible) {line : Text} (hline : line.isScalar = true) {stream : Stream}
    (hf : f.observe line stream = .ok f') : f'.Expressible := by
  have hplain : ∀ hint ∈ (Toolchain.Hint.ofLine? line).toList, hint.Unpaired := fun hint hhint =>
    Toolchain.unpaired_of_ofLine? (Text.unpaired_of_isScalar hline) (Option.mem_toList.1 hhint)
  obtain ⟨r, hextends, ⟨rfl, rfl⟩ | ⟨rfl, hr⟩⟩ := exists_extends_of_observe hf
  · exact h.extend hextends nofun nofun hplain
  · obtain ⟨hm, rfl⟩ | ⟨m, ds, hm, hds, rfl⟩ := Reading.ofLine_eq_ok hr
    · refine h.extend hextends nofun nofun ?_
      rw [Reading.hint?, hm]
      exact hplain
    · have hvalue := Message.expressible_of_ofLine? hline hm
      refine h.extend hextends (fun d => Diagnostic.expressible_of_mem_ofMessage hvalue hds) (fun m' hm' => ?_) ?_
      · obtain rfl := List.mem_singleton.1 (List.mem_filter.1 hm').1
        exact hvalue
      · rw [Reading.hint?, hm]
        exact fun hint hhint => Toolchain.unpaired_of_ofMessage? hvalue (Option.mem_toList.1 hhint)

/-- **Lines** without surrogates, also when one of them cannot be taken. -/
theorem Expressible.observeEach (h : f.Expressible) {ls : List (Stream × Text)}
    (hls : ∀ l ∈ ls, l.2.isScalar = true) : (f.observeEach ls).2.Expressible := by
  induction ls generalizing f with
  | nil => exact h
  | cons l ls ih =>
    obtain ⟨stream, line⟩ := l
    obtain ⟨hline, hls⟩ := List.forall_mem_cons.1 hls
    rw [Findings.observeEach]
    cases hf : f.observe line stream with
    | error e => exact h
    | ok f' => exact ih (h.observe hline hf) hls

end Findings

end ContractBuild
