import ContractBuild.Proofs.Affixes
import ContractBuild.Proofs.Origins

/-!
# The diagnostics of a message, span by span

A message has diagnostics when it reports something: it is a compiler message at the level of an error or a warning, with
a list of spans that is not empty (`Message.Reports`). Then its diagnostics are those of the spans that are located in a
file (`Diagnostic.Locates`), one for each and in their order. They share a text (`Diagnostic.Shows`) and what is known
about it (`Documentation.linkFor`).

* `Documentation.map_url_ofText?`: where a text is documented that mentions a subject.
* `Diagnostic.describes_filterMap`: the spans, by induction.
* `Diagnostic.ofMessage_describes`: the message.
-/

namespace ContractBuild

/-! ## The text of a message and its documentation -/

namespace Documentation

/-- Where a text is documented, by the subjects that it mentions in any case. -/
def linkFor (t : Text) : Option Text :=
  if ("near_sdk" : Text) <:+: t.lower then some "https://docs.rs/near-sdk/latest/near_sdk/"
  else if ("wasm" : Text) <:+: t.lower then some "https://docs.near.org/sdk/rust/quickstart"
  else none

theorem map_url_ofText? (t : Text) : (ofText? t).map Documentation.url = linkFor t := by
  unfold ofText? subjects linkFor
  by_cases hsdk : ("near_sdk" : Text) <:+: t.lower
  · simp [hsdk, Text.contains_iff]
  · by_cases hwasm : ("wasm" : Text) <:+: t.lower
    · simp [hsdk, hwasm, Text.contains_iff]
    · simp [hsdk, hwasm, Text.contains_iff]

end Documentation

namespace Diagnostic

/-- The text that is shown for a body: the rendered one, else the bare one, else none, where an empty text counts as
none. -/
inductive Shows (body : List (Text × Value)) : Text → Prop
  | rendered {t : Text} (rendered : Value.entry? "rendered" body = some (.text t)) (full : t ≠ []) : Shows body t
  | bare {t : Text} (unrendered : ∀ r, Value.entry? "rendered" body = some (.text r) → r = [])
      (bare : Value.entry? "message" body = some (.text t)) (full : t ≠ []) : Shows body t
  | nothing (unrendered : ∀ r, Value.entry? "rendered" body = some (.text r) → r = [])
      (wordless : ∀ r, Value.entry? "message" body = some (.text r) → r = []) : Shows body []

theorem fullText?_eq_some_iff {v : Option Value} {t : Text} : fullText? v = some t ↔ v = some (.text t) ∧ t ≠ [] := by
  unfold fullText?
  split
  · rename_i u
    cases u with
    | nil => simp
    | cons c u => simp only [List.isEmpty_cons, Option.some.injEq]; grind
  · rename_i hno
    simp only [reduceCtorEq, false_iff, not_and]
    exact fun h => absurd h (hno t)

theorem fullText?_eq_none_iff {v : Option Value} : fullText? v = none ↔ ∀ r, v = some (.text r) → r = [] := by
  rw [Option.eq_none_iff_forall_ne_some]
  refine forall_congr' fun r => ?_
  rw [ne_eq, fullText?_eq_some_iff, not_and, not_not]

theorem shows_displayText (body : List (Text × Value)) : Shows body (displayText body) := by
  unfold displayText
  split
  · rename_i t ht
    obtain ⟨hrendered, hfull⟩ := fullText?_eq_some_iff.1 ht
    exact .rendered hrendered hfull
  · rename_i hno
    have hunrendered := fullText?_eq_none_iff.1 hno
    cases hbare : fullText? (Value.entry? "message" body) with
    | none => exact .nothing hunrendered (fullText?_eq_none_iff.1 hbare)
    | some t =>
      obtain ⟨hmessage, hfull⟩ := fullText?_eq_some_iff.1 hbare
      exact .bare hunrendered hmessage hfull

/-! ## One span -/

/-- An element of the spans is located in a file: it is a map that names the file and is not marked as one that is not
primary. -/
def Locates (v : Value) (file : Text) : Prop :=
  ∃ span, v = .map span ∧ Value.entry? "is_primary" span ≠ some (.bool false) ∧
    Value.entry? "file_name" span = some (.text file) ∧ file ≠ []

/-- A diagnostic is that of an element of the spans: it is where this one is located. -/
def Describes (v : Value) (d : Diagnostic) : Prop :=
  Locates v d.file ∧ ∃ span, v = .map span ∧ d.range = spanRange span

theorem spanFile?_eq_some_iff {span : List (Text × Value)} {file : Text} :
    spanFile? span = some file ↔ Locates (.map span) file := by
  constructor
  · intro h
    exact ⟨span, rfl, spanFile?_eq_some h⟩
  · rintro ⟨_, hspan, hprimary, hname, hne⟩
    obtain rfl := Value.map.inj hspan
    unfold spanFile?
    split
    · rename_i h
      exact absurd h hprimary
    · rw [hname]
      simp [hne]

variable (severity : Severity) (text : Text) (code : Option Value) (url : Option Text)

theorem ofSpan?_isSome_iff (v : Value) :
    (ofSpan? severity text code url v).isSome = true ↔ ∃ file, Locates v file := by
  cases v with
  | map span =>
    rw [ofSpan?, Option.isSome_map, Option.isSome_iff_exists]
    exact exists_congr fun file => spanFile?_eq_some_iff
  | null | bool _ | int _ | float _ | text _ | list _ =>
    refine iff_of_false (by simp [ofSpan?]) ?_
    rintro ⟨file, span, h, -⟩
    cases h

instance (v : Value) : Decidable (∃ file, Locates v file) :=
  decidable_of_iff _ (ofSpan?_isSome_iff .error [] none none v)

/-- What a span gives is its diagnostic, with what all diagnostics of the message have. -/
theorem describes_of_ofSpan? {v : Value} {d : Diagnostic} (h : ofSpan? severity text code url v = some d) :
    Describes v d ∧ d.severity = severity ∧ d.message = text ∧ d.code = code ∧ d.documentation = url := by
  cases v with
  | map span =>
    obtain ⟨file, hfile, rfl⟩ := Option.map_eq_some_iff.1 h
    exact ⟨⟨spanFile?_eq_some_iff.1 hfile, span, rfl, rfl⟩, rfl, rfl, rfl, rfl⟩
  | null | bool _ | int _ | float _ | text _ | list _ => cases h

/-! ## All spans -/

/-- **The spans** that are located give one diagnostic each, in their order, and the others give none. -/
theorem describes_filterMap (spans : List Value) :
    List.Forall₂ Describes (spans.filter fun v => ∃ file, Locates v file)
      (spans.filterMap (ofSpan? severity text code url)) := by
  induction spans with
  | nil => exact .nil
  | cons v spans ih =>
    have hlocated := ofSpan?_isSome_iff severity text code url v
    cases h : ofSpan? severity text code url v with
    | none =>
      rw [h] at hlocated
      have hno : ¬ ∃ file, Locates v file := fun hex => Bool.false_ne_true (hlocated.2 hex)
      rw [List.filterMap_cons_none h, List.filter_cons_of_neg (by simpa using hno)]
      exact ih
    | some d =>
      rw [h] at hlocated
      have hyes : ∃ file, Locates v file := hlocated.1 rfl
      rw [List.filterMap_cons_some h, List.filter_cons_of_pos (by simpa using hyes)]
      exact .cons (describes_of_ofSpan? severity text code url h).1 ih

/-- All diagnostics of spans have what belongs to the message. -/
theorem shared_of_mem_filterMap {spans : List Value} {d : Diagnostic}
    (h : d ∈ spans.filterMap (ofSpan? severity text code url)) :
    d.severity = severity ∧ d.message = text ∧ d.code = code ∧ d.documentation = url := by
  obtain ⟨v, -, hv⟩ := List.mem_filterMap.1 h
  exact (describes_of_ofSpan? severity text code url hv).2

/-- A body gives the diagnostics of its spans, with one text, and with its code where the text is documented. -/
theorem ofBody_eq_filterMap (body : List (Text × Value)) (spans : List Value) :
    ofBody body spans severity = spans.filterMap (ofSpan? severity (displayText body)
      ((Documentation.linkFor (displayText body)).map fun _ => codeOf body)
      (Documentation.linkFor (displayText body))) := by
  rw [← Documentation.map_url_ofText?]
  unfold ofBody
  dsimp only
  cases Documentation.ofText? (displayText body) <;> rfl

theorem ofBody_eq (body : List (Text × Value)) (spans : List Value) :
    ∃ code : Option Value, (code = none ↔ Documentation.linkFor (displayText body) = none) ∧
      (∀ v, code = some v → v.isTruthy = true) ∧
      ofBody body spans severity = spans.filterMap
        (ofSpan? severity (displayText body) code (Documentation.linkFor (displayText body))) := by
  refine ⟨_, Option.map_eq_none_iff, fun v hv => ?_, ofBody_eq_filterMap severity body spans⟩
  obtain ⟨-, -, rfl⟩ := Option.map_eq_some_iff.1 hv
  exact isTruthy_codeOf body

end Diagnostic

/-! ## Messages -/

/-- A message reports something: it is a compiler message at the level of a severity, and its body has spans. -/
structure Message.Reports (m : Message) (severity : Severity) (body : List (Text × Value)) (spans : List Value) :
    Prop where
  kind : m.kind = .compilerDiagnostic
  body_eq : m.field? "message" = some (.map body)
  spans_eq : Value.entry? "spans" body = some (.list spans)
  spans_ne_nil : spans ≠ []
  level_eq : Value.entry? "level" body = some (.text severity.name)

namespace Diagnostic

theorem severityOf?_name (severity : Severity) : severityOf? (some (.text severity.name)) = .ok (some severity) := by
  cases severity <;> rfl

/-- What a message reports is in its body. -/
theorem ofMessage_of_reports {m : Message} {severity : Severity} {body : List (Text × Value)} {spans : List Value}
    (h : m.Reports severity body spans) : ofMessage m = .ok (ofBody body spans severity) := by
  obtain ⟨s, ss, rfl⟩ := List.exists_cons_of_ne_nil h.spans_ne_nil
  unfold ofMessage
  rw [if_neg (not_not_intro h.kind), h.body_eq]
  dsimp only
  rw [h.spans_eq]
  dsimp only
  rw [h.level_eq, severityOf?_name]

/-- A message that reports nothing has no diagnostics. -/
theorem ofMessage_of_not_reports {m : Message} (h : ¬ ∃ severity body spans, m.Reports severity body spans)
    {ds : List Diagnostic} (hds : ofMessage m = .ok ds) : ds = [] := by
  rcases Reading.ofMessage_cases m with hnil | ⟨body, s, ss, hkind, hbody, hspans, heq⟩
  · rw [hnil] at hds
    exact (Except.ok.inj hds).symm
  · rw [heq] at hds
    cases hlevel : severityOf? (Value.entry? "level" body) with
    | error e =>
      rw [hlevel] at hds
      cases hds
    | ok severity? =>
      cases severity? with
      | none =>
        rw [hlevel] at hds
        exact (Except.ok.inj hds).symm
      | some severity =>
        exact absurd ⟨severity, body, s :: ss, hkind, hbody, hspans, List.cons_ne_nil s ss,
          severityOf?_eq_some hlevel⟩ h

/-- **The diagnostics of a message** that gives any result. There are none unless the message reports something: it is a
compiler message at the level of an error or a warning, and its body has spans. Then there is one for each span that is
located in a file, in the order of the spans, and no other one. All have the severity of the level, the text of the body,
the link for this text, and one code, which is absent exactly when the link is, and true where it is there: it is not null,
and not an empty text. -/
theorem ofMessage_describes {m : Message} {ds : List Diagnostic} (h : ofMessage m = .ok ds) :
    ((¬ ∃ severity body spans, m.Reports severity body spans) → ds = []) ∧
      ∀ severity body spans, m.Reports severity body spans →
        List.Forall₂ Describes (spans.filter fun v => ∃ file, Locates v file) ds ∧
          ∃ text code, Shows body text ∧ (code = none ↔ Documentation.linkFor text = none) ∧
            (∀ v, code = some v → v.isTruthy = true) ∧
            ∀ d ∈ ds, d.severity = severity ∧ d.message = text ∧ d.code = code ∧
              d.documentation = Documentation.linkFor text := by
  refine ⟨fun hno => ofMessage_of_not_reports hno h, ?_⟩
  intro severity body spans hreports
  rw [ofMessage_of_reports hreports, Except.ok.injEq] at h
  obtain ⟨code, hcode, htrue, hbody⟩ := ofBody_eq severity body spans
  rw [hbody] at h
  subst h
  refine ⟨describes_filterMap severity _ code _ spans, displayText body, code, shows_displayText body, hcode, htrue, ?_⟩
  intro d hd
  exact shared_of_mem_filterMap severity _ code _ hd

/-- Spans of which the third and the last are located: one is no map, one is not primary, and one names no file. -/
def mixedSpans : List Value :=
  [.int 3, .map [("file_name", .text "a.rs"), ("is_primary", .bool false)],
    .map [("file_name", .text "b.rs"), ("is_primary", .int 0)], .map [("file_name", .text "")],
    .map [("file_name", .text "c.rs"), ("is_primary", .bool true)]]

/-- A warning about these spans that has no rendered text. -/
def mixedBody : List (Text × Value) :=
  [("level", .text "warning"), ("rendered", .text ""), ("message", .text "unsupported on WASM"),
    ("spans", .list mixedSpans)]

/-- The two spans give diagnostics with the text of the message, its link, and a code. -/
theorem ofMessage_describes_mixed :
    let m : Message := ⟨.compilerDiagnostic, [("message", .map mixedBody)], []⟩
    m.Reports .warning mixedBody mixedSpans ∧
      ∃ ds, ofMessage m = .ok ds ∧ ds.map Diagnostic.file = ["b.rs", "c.rs"] ∧
        List.Forall₂ Describes (mixedSpans.filter fun v => ∃ file, Locates v file) ds ∧
        ∃ code, code ≠ none ∧ ∀ d ∈ ds, d.severity = .warning ∧ d.message = "unsupported on WASM" ∧ d.code = code ∧
          d.documentation = some "https://docs.near.org/sdk/rust/quickstart" := by
  intro m
  have hreports : m.Reports .warning mixedBody mixedSpans := ⟨rfl, rfl, rfl, List.cons_ne_nil _ _, rfl⟩
  have hds : ofMessage m = .ok (ofBody mixedBody mixedSpans .warning) := ofMessage_of_reports hreports
  obtain ⟨-, hall⟩ := ofMessage_describes hds
  obtain ⟨hspans, text, code, hshows, hcode, -, hshared⟩ := hall .warning mixedBody mixedSpans hreports
  have htext : text = "unsupported on WASM" := by
    cases hshows with
    | rendered rendered full => cases rendered; exact absurd rfl full
    | bare unrendered bare full => cases bare; rfl
    | nothing unrendered wordless => exact absurd (wordless _ rfl) (by decide)
  have hlink : Documentation.linkFor "unsupported on WASM" = some "https://docs.near.org/sdk/rust/quickstart" := by
    decide +kernel
  rw [htext, hlink] at hcode hshared
  have hcoded : code ≠ none := fun hnone => Option.some_ne_none _ (hcode.1 hnone)
  exact ⟨hreports, _, hds, by decide +kernel, hspans, code, hcoded, hshared⟩

end Diagnostic

end ContractBuild
