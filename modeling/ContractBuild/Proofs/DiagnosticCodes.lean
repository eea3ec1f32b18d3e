import ContractBuild.Proofs.SpanDiagnostics

/-!
# The codes of diagnostics

A message carries a code when its body names one (`Diagnostic.Carries`). A documented diagnostic gets a code that is a
text and not empty, and the default one where the message carries nothing that counts as true. But a code that counts as
true and is no text (`Value.Foreign`) is passed on as it is (`Diagnostic.documentedCode_codeOf`).

So all codes of the diagnostics of a message are proper, that is absent or texts that are not empty, exactly when the
message does not hand a foreign code to a documented diagnostic (`Diagnostic.ofMessage_codes_proper_iff`).
-/

namespace ContractBuild

/-- A value that counts as true and is no text. -/
inductive Value.Foreign : Value → Prop
  | true : Foreign (.bool true)
  | int {n : Int} (ne_zero : n ≠ 0) : Foreign (.int n)
  | float {x : Binary64} (not_zero : x.isZero = false) : Foreign (.float x)
  | list {items : List Value} (full : items ≠ []) : Foreign (.list items)
  | map {entries : List (Text × Value)} (full : entries ≠ []) : Foreign (.map entries)

theorem Value.foreign_iff {v : Value} : v.Foreign ↔ v.isTruthy = true ∧ ∀ t, v ≠ .text t := by
  constructor
  · intro h
    cases h <;> simp_all [isTruthy]
  · rintro ⟨htrue, htext⟩
    cases v with
    | null => cases htrue
    | bool b =>
      obtain rfl : b = .true := htrue
      exact .true
    | int n => exact .int (by simpa [isTruthy] using htrue)
    | float x => exact .float (by simpa [isTruthy] using htrue)
    | text t => exact absurd rfl (htext t)
    | list items => exact .list (by simpa [isTruthy] using htrue)
    | map entries => exact .map (by simpa [isTruthy] using htrue)

namespace Diagnostic

/-- The code of a diagnostic is absent, or a text that is not empty. -/
def HasProperCode (d : Diagnostic) : Prop := ∀ code, d.code = some code → ∃ t : Text, t ≠ [] ∧ code = .text t

/-- A body carries a code: it has a map for it, and this has the code. -/
def Carries (body : List (Text × Value)) (code : Value) : Prop :=
  ∃ info, Value.entry? "code" body = some (.map info) ∧ Value.entry? "code" info = some code

/-- A body carries at most one code. -/
theorem Carries.unique {body : List (Text × Value)} {v w : Value} (hv : Carries body v) (hw : Carries body w) :
    v = w := by
  obtain ⟨info, hinfo, hv⟩ := hv
  obtain ⟨info', hinfo', hw⟩ := hw
  rw [hinfo, Option.some.injEq, Value.map.injEq] at hinfo'
  subst hinfo'
  rw [hv] at hw
  exact Option.some.inj hw

/-- The code that a documented diagnostic gets from a body: the one that the body carries, whether it is a text or not,
or the default one where it carries nothing that counts as true. -/
inductive DocumentedCode (body : List (Text × Value)) : Value → Prop
  | own {t : Text} (carried : Carries body (.text t)) (full : t ≠ []) : DocumentedCode body (.text t)
  | foreign {v : Value} (carried : Carries body v) (foreign : v.Foreign) : DocumentedCode body v
  | default (wordless : ∀ t, Carries body (.text t) → t = []) (native : ∀ v, Carries body v → ¬ v.Foreign) :
    DocumentedCode body (.text "near")

/-- Where no foreign code is carried, the code is a text. -/
theorem DocumentedCode.exists_text {body : List (Text × Value)} {code : Value} (h : DocumentedCode body code)
    (hnative : ∀ v, Carries body v → ¬ v.Foreign) : ∃ t : Text, t ≠ [] ∧ code = .text t := by
  cases h with
  | own carried full => exact ⟨_, full, rfl⟩
  | foreign carried foreign => exact absurd foreign (hnative code carried)
  | default => exact ⟨"near", by decide, rfl⟩

/-- What a body carries is passed on when it counts as true. -/
theorem codeOf_of_carries {body : List (Text × Value)} {v : Value} (h : Carries body v) :
    codeOf body = if v.isTruthy then v else .text "near" := by
  obtain ⟨info, hinfo, hv⟩ := h
  unfold codeOf
  rw [hinfo]
  dsimp only
  rw [hv]
  rfl

/-- A body that carries no code gives the default one. -/
theorem codeOf_of_not_carries {body : List (Text × Value)} (h : ∀ v, ¬ Carries body v) : codeOf body = .text "near" := by
  unfold codeOf
  split
  · rename_i info hinfo
    cases hv : Value.entry? "code" info with
    | none => rfl
    | some v => exact absurd ⟨info, hinfo, hv⟩ (h v)
  · rfl

/-- **The code of documented diagnostics.** -/
theorem documentedCode_codeOf (body : List (Text × Value)) : DocumentedCode body (codeOf body) := by
  by_cases hcarries : ∃ v, Carries body v
  · obtain ⟨v, hv⟩ := hcarries
    rw [codeOf_of_carries hv]
    split
    · rename_i htrue
      by_cases htext : ∃ t, v = .text t
      · obtain ⟨t, rfl⟩ := htext
        refine .own hv ?_
        rintro rfl
        cases htrue
      · exact .foreign hv (Value.foreign_iff.2 ⟨htrue, fun t ht => htext ⟨t, ht⟩⟩)
    · rename_i hfalse
      refine .default (fun t ht => ?_) fun w hw hforeign => ?_
      · obtain rfl := hv.unique ht
        simpa [Value.isTruthy] using hfalse
      · obtain rfl := hv.unique hw
        exact hfalse (Value.foreign_iff.1 hforeign).1
  · have hno (v : Value) : ¬ Carries body v := fun hv => hcarries ⟨v, hv⟩
    rw [codeOf_of_not_carries hno]
    exact .default (fun t ht => absurd ht (hno _)) fun v hv => absurd hv (hno v)

/-- A body shows one text. -/
theorem Shows.eq_displayText {body : List (Text × Value)} {t : Text} (h : Shows body t) : t = displayText body := by
  unfold displayText
  cases h with
  | rendered rendered full => rw [fullText?_eq_some_iff.2 ⟨rendered, full⟩]
  | bare unrendered bare full =>
    rw [fullText?_eq_none_iff.2 unrendered, fullText?_eq_some_iff.2 ⟨bare, full⟩]
    rfl
  | nothing unrendered wordless =>
    rw [fullText?_eq_none_iff.2 unrendered, fullText?_eq_none_iff.2 wordless]
    rfl

/-- A diagnostic of a body has its code exactly when it is documented. -/
theorem code_of_mem_ofBody {body : List (Text × Value)} {spans : List Value} {severity : Severity} {d : Diagnostic}
    (h : d ∈ ofBody body spans severity) :
    d.documentation = Documentation.linkFor (displayText body) ∧ d.code = d.documentation.map fun _ => codeOf body := by
  rw [ofBody_eq_filterMap] at h
  obtain ⟨-, -, hcode, hdocumentation⟩ := shared_of_mem_filterMap severity _ _ _ h
  rw [hdocumentation]
  exact ⟨rfl, hcode⟩

end Diagnostic

/-- A message hands a foreign code to a diagnostic: it reports something in a file, with a text that is documented, and
carries a code that counts as true and is no text. -/
structure Message.HandsOver (m : Message) (code : Value) (severity : Severity) (body : List (Text × Value))
    (spans : List Value) (text : Text) : Prop where
  reports : m.Reports severity body spans
  located : ∃ v ∈ spans, ∃ file, Diagnostic.Locates v file
  shows_text : Diagnostic.Shows body text
  documented : Documentation.linkFor text ≠ none
  carried : Diagnostic.Carries body code
  foreign : code.Foreign

namespace Diagnostic

/-- What a message hands over is the code of one of its diagnostics. -/
theorem exists_code_of_handsOver {m : Message} {code : Value} {severity : Severity} {body : List (Text × Value)}
    {spans : List Value} {text : Text} (h : m.HandsOver code severity body spans text) {ds : List Diagnostic}
    (hds : ofMessage m = .ok ds) : ∃ d ∈ ds, d.code = some code := by
  rw [ofMessage_of_reports h.reports, Except.ok.injEq] at hds
  obtain ⟨v, hv, hfile⟩ := h.located
  obtain ⟨url, hurl⟩ := Option.ne_none_iff_exists'.1 h.documented
  rw [h.shows_text.eq_displayText] at hurl
  have hcode : codeOf body = code := by
    rw [codeOf_of_carries h.carried, if_pos (Value.foreign_iff.1 h.foreign).1]
  have hsome := (ofSpan?_isSome_iff severity (displayText body) (some code) (some url) v).2 hfile
  obtain ⟨d, hd⟩ := Option.isSome_iff_exists.1 hsome
  refine ⟨d, ?_, (describes_of_ofSpan? severity _ _ _ hd).2.2.2.1⟩
  rw [← hds, ofBody_eq_filterMap, hurl, Option.map_some, hcode]
  exact List.mem_filterMap.2 ⟨v, hv, hd⟩

/-- A diagnostic of a body has a code exactly when it has documentation. -/
theorem documentedCode_of_mem_ofBody {body : List (Text × Value)} {spans : List Value} {severity : Severity}
    {d : Diagnostic} (h : d ∈ ofBody body spans severity) : (d.documentation = none ∧ d.code = none) ∨
      d.documentation ≠ none ∧ ∃ code, DocumentedCode body code ∧ d.code = some code := by
  obtain ⟨-, hcode⟩ := code_of_mem_ofBody h
  cases hdocumentation : d.documentation with
  | none =>
    rw [hdocumentation] at hcode
    exact .inl ⟨rfl, hcode⟩
  | some url =>
    rw [hdocumentation] at hcode
    exact .inr ⟨Option.some_ne_none url, codeOf body, documentedCode_codeOf body, hcode⟩

/-- Where nothing foreign is handed over, the codes of a body's diagnostics are proper. -/
theorem hasProperCode_of_mem_ofBody {m : Message} {body : List (Text × Value)} {spans : List Value} {severity : Severity}
    (hreports : m.Reports severity body spans) {d : Diagnostic} (hd : d ∈ ofBody body spans severity)
    (hno : ∀ code text, ¬ m.HandsOver code severity body spans text) : d.HasProperCode := by
  intro code hcode
  obtain ⟨hlink, hcoded⟩ := code_of_mem_ofBody hd
  rw [hcoded, hlink, Option.map_eq_some_iff] at hcode
  obtain ⟨url, hurl, rfl⟩ := hcode
  apply (documentedCode_codeOf body).exists_text
  intro v hv hforeign
  rw [ofBody_eq_filterMap] at hd
  obtain ⟨span, hspan, hsome⟩ := List.mem_filterMap.1 hd
  have hfile := (ofSpan?_isSome_iff _ _ _ _ span).1 (Option.isSome_of_eq_some hsome)
  exact hno v _ ⟨hreports, ⟨span, hspan, hfile⟩, shows_displayText body, Option.ne_none_iff_exists'.2 ⟨url, hurl⟩, hv,
    hforeign⟩

/-- **The codes of the diagnostics of a message** that gives any result. A diagnostic without documentation has no code.
One with documentation has the code that the body carries, if this is a text and not empty, or if it is no text and
counts as true; else it has the default one. So all codes are absent or texts that are not empty exactly when the message
hands no foreign code over. -/
theorem ofMessage_codes_proper_iff {m : Message} {ds : List Diagnostic} (h : ofMessage m = .ok ds) :
    (∀ d ∈ ds, (d.documentation = none ∧ d.code = none) ∨ d.documentation ≠ none ∧ ∃ body code,
      m.field? "message" = some (.map body) ∧ DocumentedCode body code ∧ d.code = some code) ∧
    ((∀ d ∈ ds, d.HasProperCode) ↔
      ¬ ∃ code severity body spans text, m.HandsOver code severity body spans text) := by
  by_cases hreports : ∃ severity body spans, m.Reports severity body spans
  · obtain ⟨severity, body, spans, hreports⟩ := hreports
    have hds : ofBody body spans severity = ds := by
      rw [ofMessage_of_reports hreports] at h
      exact Except.ok.inj h
    constructor
    · intro d hd
      rw [← hds] at hd
      obtain hnone | ⟨hdocumentation, code, hcode, hown⟩ := documentedCode_of_mem_ofBody hd
      · exact .inl hnone
      · exact .inr ⟨hdocumentation, body, code, hreports.body_eq, hcode, hown⟩
    constructor
    · rintro hproper ⟨code, _, _, _, _, hover⟩
      obtain ⟨d, hd, hdcode⟩ := exists_code_of_handsOver hover h
      obtain ⟨t, -, rfl⟩ := hproper d hd code hdcode
      exact (Value.foreign_iff.1 hover.foreign).2 t rfl
    · intro hno d hd
      rw [← hds] at hd
      apply hasProperCode_of_mem_ofBody hreports hd
      intro code text hover
      exact hno ⟨code, severity, body, spans, text, hover⟩
  · have hnil := ofMessage_of_not_reports hreports h
    subst hnil
    refine ⟨nofun, iff_of_true nofun ?_⟩
    rintro ⟨_, severity, body, spans, _, hover⟩
    exact hreports ⟨severity, body, spans, hover.reports⟩

/-- The body of a warning about one span, with a documented text and the given code. -/
def codedBody (code : Value) : List (Text × Value) :=
  [("level", .text "warning"), ("message", .text "wasm"), ("code", .map [("code", code)]),
    ("spans", .list [.map [("file_name", .text "src/lib.rs")]])]

/-- The message with this body. -/
def codedMessage (code : Value) : Message := ⟨.compilerDiagnostic, [("message", .map (codedBody code))], []⟩

/-- A code that is an empty list does not count as true: the diagnostic has the default one, and it is proper. -/
theorem ofMessage_codes_proper_empty :
    ∃ d, ofMessage (codedMessage (.list [])) = .ok [d] ∧ d.HasProperCode ∧
      (¬ ∃ code severity body spans text, (codedMessage (.list [])).HandsOver code severity body spans text) ∧
      ∃ body code, (codedMessage (.list [])).field? "message" = some (.map body) ∧ DocumentedCode body code ∧
        d.code = some code := by
  obtain ⟨d, hd, hcode, hdocumentation⟩ : ∃ d, ofMessage (codedMessage (.list [])) = .ok [d] ∧
      d.code = some (.text "near") ∧ d.documentation = some "https://docs.near.org/sdk/rust/quickstart" := by
    exact ⟨_, rfl, rfl, rfl⟩
  obtain ⟨hcodes, hproper⟩ := ofMessage_codes_proper_iff hd
  have hown : d.HasProperCode := by
    intro code h
    rw [hcode] at h
    exact ⟨"near", by decide, (Option.some.inj h).symm⟩
  refine ⟨d, hd, hown, hproper.1 (by simpa using hown), ?_⟩
  rcases hcodes d List.mem_cons_self with ⟨hnone, -⟩ | ⟨-, hcoded⟩
  · rw [hdocumentation] at hnone
    cases hnone
  · exact hcoded

/-- A code that is a number is passed on, and so is one that is a list. -/
theorem ofMessage_code_not_text :
    (∃ d, ofMessage (codedMessage (.int 7)) = .ok [d] ∧ d.code = some (.int 7) ∧ ¬ d.HasProperCode) ∧
      ∃ d, ofMessage (codedMessage (.list [.text "E0308"])) = .ok [d] ∧
        d.code = some (.list [.text "E0308"]) ∧ ¬ d.HasProperCode := by
  have himproper {d : Diagnostic} {code : Value} (h : d.code = some code) (htext : ∀ t, code ≠ .text t) :
      ¬ d.HasProperCode := by
    intro hproper
    obtain ⟨t, -, rfl⟩ := hproper code h
    exact htext t rfl
  exact ⟨⟨_, rfl, rfl, himproper rfl nofun⟩, ⟨_, rfl, rfl, himproper rfl nofun⟩⟩

end Diagnostic

end ContractBuild
