import ContractBuild.Proofs.Batch
import Mathlib.Data.List.Nodup

/-!
# Hints in the order of first sight

Symptoms of toolchain problems come one after the other: lines of plain output, messages, and commands that could not be
started. Each is looked at when it comes, gives a hint or none, and its hint is recorded. A message is looked at line by
line, up to the first line that has a hint.

* `Toolchain.classify_eq`: one symptom gives the hint that a session takes from it, and records that hint only.
* `Toolchain.prefix_record`, `Toolchain.nodup_record`: recording a hint keeps those before it, and each is there once.
* `Toolchain.classifyAll_eq`: so the hints of all symptoms are what they gave, each once.
* `Toolchain.hints_first_seen`: all of this, and which line of a message decides.
-/

namespace ContractBuild.Toolchain

/-- The hint that a session takes from a symptom. -/
def Symptom.hint? : Symptom → Option Hint
  | .line t => Hint.ofLine? t
  | .message m => Hint.ofMessage? m
  | .notStarted command error => some (.notStarted command error)

/-! ## One symptom -/

theorem classifyLine_eq (known : List Text) (line : Text) :
    classifyLine known line = ((Hint.ofLine? line).map Hint.message, record known (Hint.ofLine? line)) := by
  unfold classifyLine
  cases Hint.ofLine? line <;> rfl

/-- Of several lines the first that has a hint decides. -/
theorem classifyLines_eq (known : List Text) (lines : List Text) :
    classifyLines known lines =
      ((lines.findSome? Hint.ofLine?).map Hint.message, record known (lines.findSome? Hint.ofLine?)) := by
  induction lines with
  | nil => rfl
  | cons line rest ih =>
    rw [classifyLines, classifyLine_eq, List.findSome?_cons]
    cases Hint.ofLine? line with
    | none => exact ih
    | some hint => rfl

theorem classifyMessage_eq (known : List Text) (m : Message) :
    classifyMessage known m = ((Hint.ofMessage? m).map Hint.message, record known (Hint.ofMessage? m)) := by
  unfold classifyMessage Hint.ofMessage?
  cases Hint.bodyWithoutSpans? m with
  | none => rfl
  | some body =>
    rw [Option.bind_some, List.findSome?_append]
    simp only [classifyLines_eq]
    cases (Hint.linesOf "rendered" body).findSome? Hint.ofLine? <;> rfl

/-- **A symptom** gives the hint that a session takes from it, and records that hint only. -/
theorem classify_eq (known : List Text) (s : Symptom) :
    classify known s = (s.hint?.map Hint.message, record known s.hint?) := by
  cases s with
  | line t => exact classifyLine_eq known t
  | message m => exact classifyMessage_eq known m
  | notStarted command error => rfl

/-- Recording a hint keeps those before it. -/
theorem prefix_record (known : List Text) (hint : Option Hint) : known <+: record known hint := by
  cases hint with
  | none => exact List.prefix_rfl
  | some hint =>
    rw [record]
    split
    · exact List.prefix_rfl
    · exact List.prefix_append known [hint.message]

/-- Recording a hint keeps each there once. -/
theorem nodup_record {known : List Text} (h : known.Nodup) (hint : Option Hint) : (record known hint).Nodup := by
  cases hint with
  | none => exact h
  | some hint =>
    rw [record]
    split
    · exact h
    · rename_i hnew
      rw [← List.concat_eq_append]
      exact h.concat (by simpa using hnew)

/-! ## Many symptoms -/

/-- **Symptoms** give the hints that a session takes from them, and record these in order. -/
theorem classifyAll_eq (known : List Text) (ss : List Symptom) :
    classifyAll known ss = (ss.map fun s => s.hint?.map Hint.message,
      (ss.filterMap Symptom.hint?).foldl (fun known hint => record known (some hint)) known) := by
  induction ss generalizing known with
  | nil => rfl
  | cons s ss ih =>
    rw [classifyAll, ih, classify_eq, List.map_cons, List.filterMap_cons]
    cases s.hint? <;> rfl

/-- What is recorded for symptoms stays ahead of what is recorded behind them. -/
theorem prefix_classifyAll (known : List Text) (ss : List Symptom) : known <+: (classifyAll known ss).2 := by
  induction ss generalizing known with
  | nil => exact List.prefix_rfl
  | cons s ss ih =>
    have hone : known <+: (classify known s).2 := by
      rw [classify_eq]
      exact prefix_record known _
    exact hone.trans (ih _)

theorem nodup_classifyAll {known : List Text} (h : known.Nodup) (ss : List Symptom) :
    (classifyAll known ss).2.Nodup := by
  induction ss generalizing known with
  | nil => exact h
  | cons s ss ih =>
    rw [classifyAll, classify_eq]
    exact ih (nodup_record h _)

theorem classifyAll_append (known : List Text) (ss ts : List Symptom) :
    (classifyAll known (ss ++ ts)).2 = (classifyAll (classifyAll known ss).2 ts).2 := by
  simp only [classifyAll_eq, List.filterMap_append, List.foldl_append]

/-! ## Messages -/

/-- A compiler message at the level of an error that has no spans. -/
structure ErrorWithoutSpans (m : Message) (body : List (Text × Value)) : Prop where
  kind : m.kind = .compilerDiagnostic
  body_eq : m.field? "message" = some (.map body)
  level_eq : Value.entry? "level" body = some (.text "error")
  no_spans : ((Value.entry? "spans" body).getD .null).isTruthy = false

theorem bodyWithoutSpans?_eq_some_iff {m : Message} {body : List (Text × Value)} :
    Hint.bodyWithoutSpans? m = some body ↔ ErrorWithoutSpans m body := by
  have hlevel (v : Option Value) : v.bind Value.text? = some "error" ↔ v = some (.text "error") := by
    cases v with
    | none => simp
    | some v => cases v <;> simp [Value.text?]
  constructor
  · intro h
    unfold Hint.bodyWithoutSpans? at h
    split at h
    · cases h
    · rename_i hkind
      split at h
      · rename_i hbody
        dsimp only at h
        split at h
        · rename_i hcond
          rw [Bool.and_eq_true, decide_eq_true_eq, hlevel, Bool.not_eq_true'] at hcond
          cases h
          exact ⟨Decidable.not_not.1 hkind, hbody, hcond.1, hcond.2⟩
        · cases h
      · cases h
  · rintro ⟨hkind, hbody, hlev, hspans⟩
    simp [Hint.bodyWithoutSpans?, hkind, hbody, hlev, hspans, Value.text?]

/-- **The hint of a message** is that of the first of its lines that has one. -/
theorem classifyMessage_eq_some_iff (known : List Text) (m : Message) (t : Text) :
    (classifyMessage known m).1 = some t ↔
      ∃ body, ErrorWithoutSpans m body ∧ ∃ before line after,
        Hint.linesOf "rendered" body ++ Hint.linesOf "message" body = before ++ line :: after ∧
        (classifyLine known line).1 = some t ∧ ∀ l ∈ before, (classifyLine known l).1 = none := by
  simp only [classifyMessage_eq, classifyLine_eq, Hint.ofMessage?, Option.map_eq_none_iff]
  cases hb : Hint.bodyWithoutSpans? m with
  | none =>
    refine iff_of_false (Option.some_ne_none t).symm ?_
    rintro ⟨body, hbody, -⟩
    rw [bodyWithoutSpans?_eq_some_iff.2 hbody] at hb
    cases hb
  | some body =>
    rw [Option.bind_some, Option.map_eq_some_iff]
    constructor
    · rintro ⟨hint, hhint, rfl⟩
      obtain ⟨before, line, after, hlines, hline, hbefore⟩ := List.findSome?_eq_some_iff.1 hhint
      exact ⟨body, bodyWithoutSpans?_eq_some_iff.1 hb, before, line, after, hlines, by rw [hline]; rfl, hbefore⟩
    · rintro ⟨body', hbody, before, line, after, hlines, hline, hbefore⟩
      rw [bodyWithoutSpans?_eq_some_iff.2 hbody] at hb
      cases hb
      obtain ⟨hint, hhint, rfl⟩ := Option.map_eq_some_iff.1 hline
      exact ⟨hint, List.findSome?_eq_some_iff.2 ⟨before, line, after, hlines, hhint, hbefore⟩, rfl⟩

/-- **Hints in the order of first sight.** The hints behind any symptoms are what these gave, each once and in the order
in which it was first given; they stay ahead of all later hints, and a symptom that gives none leaves them as they are.
An error that points at no file gives the hint of the first of its lines that has one, other messages give none, and
nothing but the given hint is recorded. A session takes the same hints from its symptoms. -/
theorem hints_first_seen (ss : List Symptom) :
    (classifyAll [] ss).2 = ((classifyAll [] ss).1.filterMap id).eraseDups ∧ (classifyAll [] ss).2.Nodup ∧
    (∀ later, (classifyAll [] ss).2 <+: (classifyAll [] (ss ++ later)).2) ∧
    (∀ s, (classifyAll [] (ss ++ [s])).2 = (classify (classifyAll [] ss).2 s).2) ∧
    (∀ known s, (classify known s).1 = none → (classify known s).2 = known) ∧
    (∀ known m t, (classifyMessage known m).1 = some t ↔
      ∃ body, ErrorWithoutSpans m body ∧ ∃ before line after,
        Hint.linesOf "rendered" body ++ Hint.linesOf "message" body = before ++ line :: after ∧
        (classifyLine known line).1 = some t ∧ ∀ l ∈ before, (classifyLine known l).1 = none) ∧
    (∀ known m, (classifyMessage known m).2 =
      known ++ (classifyMessage known m).1.toList.filter (· ∉ known)) ∧
    (∀ known s, classify known s = (s.hint?.map Hint.message, record known s.hint?)) := by
  refine ⟨?_, nodup_classifyAll List.nodup_nil ss, fun later => ?_, fun s => ?_, fun known s h => ?_,
    classifyMessage_eq_some_iff, fun known m => ?_, classify_eq⟩
  · have hgiven : (ss.map fun s => s.hint?.map Hint.message).filterMap id =
        (ss.filterMap Symptom.hint?).map Hint.message := by
      rw [List.filterMap_map, List.map_filterMap]
      rfl
    rw [classifyAll_eq, hgiven]
    exact foldl_record_nil _
  · rw [classifyAll_append]
    exact prefix_classifyAll _ later
  · rw [classifyAll_append]
    rfl
  · rw [classify_eq] at h ⊢
    rw [Option.map_eq_none_iff.1 h]
    rfl
  · rw [classifyMessage_eq]
    cases Hint.ofMessage? m with
    | none => exact (List.append_nil known).symm
    | some hint => by_cases hk : hint.message ∈ known <;> simp [record, hk]

/-- An error that points at no file and complains about a command on the second of its lines. -/
def complaint : Message where
  kind := .compilerDiagnostic
  fields := [("message", .map [("level", .text "error"), ("rendered", .text "error\nno such command a"),
    ("message", .text "no such command b")])]
  line := []

/-- Four symptoms, two of which give the same hint and one of which gives none. -/
def symptoms : List Symptom :=
  [.line "no such command b", .message complaint, .line "Compiling", .line "no such command: `a`"]

/-- Their hints, in the order of first sight; a fifth symptom without a hint leaves them as they are. -/
theorem hints_first_seen_symptoms :
    (classifyAll [] symptoms).1 = [some (Hint.missingSubcommand "b").message, some (Hint.missingSubcommand "a").message,
      none, some (Hint.missingSubcommand "a").message] ∧
    (classifyAll [] symptoms).2 = [(Hint.missingSubcommand "b").message, (Hint.missingSubcommand "a").message] ∧
    (classifyAll [] symptoms).2.Nodup ∧
      (classify (classifyAll [] symptoms).2 (.line "ok")).2 = (classifyAll [] symptoms).2 ∧
    ∃ body, ErrorWithoutSpans complaint body := by
  obtain ⟨heq, hnodup, -, -, hnone, hmessage, -, -⟩ := hints_first_seen symptoms
  have hresults : (classifyAll [] symptoms).1 = [some (Hint.missingSubcommand "b").message,
      some (Hint.missingSubcommand "a").message, none, some (Hint.missingSubcommand "a").message] := by
    decide +kernel
  have hcomplaint : (classifyMessage [] complaint).1 = some (Hint.missingSubcommand "a").message := by decide +kernel
  have hquiet : (classify (classifyAll [] symptoms).2 (.line "ok")).1 = none := by decide +kernel
  obtain ⟨body, hbody, -⟩ := (hmessage [] complaint _).1 hcomplaint
  refine ⟨hresults, ?_, hnodup, hnone _ _ hquiet, body, hbody⟩
  rw [heq, hresults]
  decide

end ContractBuild.Toolchain
