import ContractBuild.Proofs.HeldBack
import ContractBuild.Proofs.Searches
import ContractBuild.Sink.Progress

/-!
# The status texts of a build

A progress sink hands every call on and lets the status follow what cargo says. The status texts are those of the lines
that end in the text that the calls append, and do not depend on where the text is cut. A line counts without the white
space around it, and its parts are a verb, white space, and the rest (`Sink.Progress.IsStep`).

* `Sink.Progress.step?_eq_some_iff`: the parts of a line are found when it has them.
* `Sink.Progress.calls_eq`: what any calls do, from what one call does.
* `Sink.Progress.statuses_of_lines`: the calls that are handed on, and the status texts.
-/

namespace ContractBuild

namespace Text

/-- A text that has been stripped does not end in white space. -/
theorem isSpace_getLast?_strip {t : Text} : ∀ c ∈ t.strip.getLast?, c.isSpace = false := by
  intro c hc
  have hstop := List.head?_dropWhile_not CodePoint.isSpace t.stripLeft.reverse
  rw [strip, stripRight, List.getLast?_reverse] at hc
  rw [Option.mem_def.1 hc] at hstop
  simpa using hstop

/-- Lines that are empty when they are stripped have nothing to say. -/
theorem filterMap_trimmed {α : Type} (f : Text → Option α) (hf : f [] = none) (ts : List Text) :
    (trimmed ts).filterMap f = ts.filterMap fun t => f t.strip := by
  induction ts with
  | nil => rfl
  | cons t ts ih =>
    have hcons : trimmed (t :: ts) = trimmed [t] ++ trimmed ts := trimmed_append [t] ts
    rw [hcons, List.filterMap_append, ih, List.filterMap_cons]
    by_cases h : t.strip = []
    · simp [trimmed, h, hf]
    · cases hstep : f t.strip <;> simp [trimmed, h, hstep]

end Text

namespace Sink.Progress

/-! ## Lines -/

/-- A line of progress: one of the verbs, white space, and the rest, which does not start with white space. -/
structure IsStep (verb rest line : Text) : Prop where
  verb_mem : verb ∈ verbs
  line_eq : ∃ space : Text, space ≠ [] ∧ (∀ c ∈ space, c.isSpace = true) ∧ line = verb ++ (space ++ rest)
  rest_start : ∀ c ∈ rest.head?, c.isSpace = false

theorem isSpace_of_mem_verb : ∀ verb ∈ verbs, ∀ c ∈ verb, c.isSpace = false := by decide

variable {verb rest line : Text}

/-- What stands behind a verb is found when white space is between them. -/
theorem object?_eq_some_iff : object? verb line = some rest ↔
    (∃ space : Text, space ≠ [] ∧ (∀ c ∈ space, c.isSpace = true) ∧ line = verb ++ (space ++ rest)) ∧
      ∀ c ∈ rest.head?, c.isSpace = false := by
  constructor
  · intro h
    rw [object?] at h
    split at h
    · cases h
    · rename_i tail htail
      split at h
      · rename_i hspace
        obtain rfl : tail.stripLeft = rest := Option.some.inj h
        refine ⟨⟨tail.takeWhile CodePoint.isSpace, ?_, fun c hc => List.mem_takeWhile_imp hc, ?_⟩, fun c hc => ?_⟩
        · cases tail with
          | nil => cases hspace
          | cons c tail =>
            have hc : c.isSpace = true := hspace
            simp [hc]
        · rw [Text.stripLeft, List.takeWhile_append_dropWhile]
          exact Text.dropPrefix?_eq_some htail
        · have hstop := List.head?_dropWhile_not CodePoint.isSpace tail
          rw [Text.stripLeft] at hc
          rw [Option.mem_def.1 hc] at hstop
          simpa using hstop
      · cases h
  · rintro ⟨⟨space, hne, hspace, rfl⟩, hrest⟩
    have hhead : ((space ++ rest).head?.map CodePoint.isSpace).getD false = true := by
      obtain ⟨c, space, rfl⟩ := List.exists_cons_of_ne_nil hne
      exact hspace c List.mem_cons_self
    rw [object?, Text.dropPrefix?_append]
    dsimp only
    rw [if_pos hhead, Text.stripLeft_append_of_stop hspace hrest]

/-- A line has one verb and one rest: the verb is all that stands before the first white space. -/
theorem IsStep.unique {verb' rest' : Text} (h : IsStep verb rest line) (h' : IsStep verb' rest' line) :
    verb' = verb ∧ rest' = rest := by
  have hsplit {verb rest : Text} (h : IsStep verb rest line) :
      verb = line.takeWhile (fun c => !c.isSpace) ∧ rest = Text.stripLeft (line.dropWhile fun c => !c.isSpace) := by
    obtain ⟨space, hne, hspace, rfl⟩ := h.line_eq
    obtain ⟨c, space, rfl⟩ := List.exists_cons_of_ne_nil hne
    have hc : c.isSpace = true := hspace c List.mem_cons_self
    have hverb : ∀ d ∈ verb, (!d.isSpace) = true := fun d hd => by
      rw [isSpace_of_mem_verb verb h.verb_mem d hd]
      rfl
    constructor
    · refine (Text.takeWhile_append_of_stop hverb fun d hd => ?_).symm
      obtain rfl : c = d := Option.some.inj hd
      rw [hc]
      rfl
    · rw [List.dropWhile_append_of_pos hverb, List.cons_append, List.dropWhile_cons, hc]
      exact (Text.stripLeft_append_of_stop hspace h.rest_start).symm
  exact ⟨(hsplit h').1.trans (hsplit h).1.symm, (hsplit h').2.trans (hsplit h).2.symm⟩

/-- **The parts of a line** are found exactly when it has them. -/
theorem step?_eq_some_iff : step? line = some (verb, rest) ↔ IsStep verb rest line := by
  have hfound {verb rest : Text} (h : step? line = some (verb, rest)) : IsStep verb rest line := by
    obtain ⟨v, hv, hobject⟩ := List.exists_of_findSome?_eq_some h
    obtain ⟨r, hr, heq⟩ := Option.map_eq_some_iff.1 hobject
    cases heq
    obtain ⟨hline, hrest⟩ := object?_eq_some_iff.1 hr
    exact ⟨hv, hline, hrest⟩
  refine ⟨hfound, fun h => ?_⟩
  cases hstep : step? line with
  | none =>
    have hobject : object? verb line = some rest := object?_eq_some_iff.2 ⟨h.line_eq, h.rest_start⟩
    have hnone := List.findSome?_eq_none_iff.1 hstep verb h.verb_mem
    rw [hobject] at hnone
    cases hnone
  | some s =>
    obtain ⟨hverb, hrest⟩ := h.unique (hfound hstep)
    rw [← hverb, ← hrest]

/-- The rest of a stripped line is there, and has no white space at its ends. -/
theorem IsStep.rest_of_strip (h : IsStep verb rest line.strip) :
    rest ≠ [] ∧ (∀ c ∈ rest.head?, c.isSpace = false) ∧ ∀ c ∈ rest.getLast?, c.isSpace = false := by
  obtain ⟨space, hne, hspace, hline⟩ := h.line_eq
  have hlast := Text.isSpace_getLast?_strip (t := line)
  rw [hline, ← List.append_assoc] at hlast
  have hrest : rest ≠ [] := by
    rintro rfl
    rw [List.append_nil, List.getLast?_append_of_ne_nil verb hne] at hlast
    have hc := hlast _ (List.getLast?_eq_some_getLast hne)
    rw [hspace _ (List.getLast_mem hne)] at hc
    cases hc
  rw [List.getLast?_append_of_ne_nil _ hrest] at hlast
  exact ⟨hrest, h.rest_start, hlast⟩

/-! ## Calls -/

/-- The status texts of lines. -/
def statusesOf (label : Text) (lines : List Text) : List Text :=
  lines.filterMap fun line => (step? line.strip).map (statusText label)

/-- **One call**: only a piece of text moves the open line, and gives the status texts of the lines that end in it. -/
theorem call_eq (s : Progress) (c : Call) :
    let pushed := s.lines.line.pushAll (Call.appended [c])
    s.call c = (statusesOf s.label pushed.1, { s with lines := { s.lines with line := pushed.2 } }) := by
  cases c with
  | append t =>
    have htext : Call.appended [.append t] = t := List.append_nil t
    dsimp only
    rw [htext, call, LineBuffer.take_eq]
    exact congrArg (·, _) (Text.filterMap_trimmed _ rfl _)
  | appendLine t => rfl
  | flush => rfl

/-- A call is handed on once, ahead of its status texts. -/
theorem perform_effects (s : Progress) (c : Call) : (s.perform c).1.filterMap Effect.call? = [c] ∧
    (s.perform c).1.filterMap Effect.status? = (s.call c).1 ∧ (s.perform c).2 = (s.call c).2 := by
  have htexts : ((s.call c).1.map Effect.status).filterMap Effect.status? = (s.call c).1 := by
    rw [List.filterMap_map]
    exact List.filterMap_some
  refine ⟨by simp [perform, Effect.call?], ?_, rfl⟩
  rw [perform, List.filterMap_cons_none rfl, htexts]

/-- **Calls** are handed on, and give the status texts of the lines that end in the text that they append. -/
theorem calls_eq (s : Progress) (cs : List Call) :
    let pushed := s.lines.line.pushAll (Call.appended cs)
    (s.calls cs).1.filterMap Effect.call? = cs ∧ s.statuses cs = statusesOf s.label pushed.1 := by
  induction cs generalizing s with
  | nil => exact ⟨rfl, rfl⟩
  | cons c cs ih =>
    have happended : Call.appended (c :: cs) = Call.appended [c] ++ Call.appended cs := by simp [Call.appended]
    have hcalls : (s.calls (c :: cs)).1 = (s.perform c).1 ++ ((s.perform c).2.calls cs).1 := rfl
    obtain ⟨hhanded, hstatus, hnext⟩ := s.perform_effects c
    obtain ⟨hrest, htexts⟩ := ih (s.perform c).2
    have hone := s.call_eq c
    dsimp only at hone htexts ⊢
    constructor
    · rw [hcalls, List.filterMap_append, hhanded, hrest, List.singleton_append]
    · rw [statuses, hcalls, List.filterMap_append, hstatus, ← statuses, htexts, hnext, hone, happended,
        OpenLine.pushAll_append]
      exact List.filterMap_append.symm

/-- **The status texts of any calls.** The calls are handed on as they come. The status texts are those of the lines that
end in the text of all pieces together, where a carriage return at its end is left out; so they do not depend on the cuts.
A line has one when, without the white space around it, it is a verb, white space and a rest; the rest is not empty, and
has no white space at its ends. Only a piece of text moves the status. -/
theorem statuses_of_lines (label : Text) (cs : List Call) :
    let t := Call.appended cs
    let s := start label
    (s.calls cs).1.filterMap Effect.call? = cs ∧
    s.statuses cs = ((Text.pieces t.settled).dropLast.filterMap fun line => (step? line.strip).map fun step =>
      label ++ ": " ++ step.1 ++ " " ++ step.2) ∧
    (∀ line verb rest, step? (Text.strip line) = some (verb, rest) ↔ IsStep verb rest (Text.strip line)) ∧
    (∀ line verb rest, IsStep verb rest (Text.strip line) →
      rest ≠ [] ∧ (∀ c ∈ rest.head?, c.isSpace = false) ∧ ∀ c ∈ rest.getLast?, c.isSpace = false) ∧
    (∀ ds, Call.appended ds = t → s.statuses ds = s.statuses cs) ∧
    (∀ c, (∀ u, c ≠ .append u) → ((s.calls cs).2.perform c).1 = [.handOn c]) := by
  intro t s
  have hstatuses (ds : List Call) :
      s.statuses ds = statusesOf label (Text.pieces (Call.appended ds).settled).dropLast := by
    rw [OpenLine.pieces_settled, List.dropLast_concat]
    exact (s.calls_eq ds).2
  refine ⟨(s.calls_eq cs).1, hstatuses cs, fun line verb rest => step?_eq_some_iff,
    fun line verb rest h => h.rest_of_strip, fun ds h => ?_, fun c hc => ?_⟩
  · rw [hstatuses, hstatuses, h]
  · cases c with
    | append u => exact absurd rfl (hc u)
    | appendLine u => rfl
    | flush => rfl

/-- Calls that cut a verb and a line end, with a line of the builder's own between them; one line has no rest, and the
last one may go on. -/
def cutProgress : List Call :=
  [.append " Compi", .append "ling near-sdk v5\r", .flush, .appendLine "Compiling x",
    .append "\n Finished \rChecking\t a  b", .append "", .append " \r\nDownloaded z\r"]

/-- Two of these lines move the status. -/
theorem statuses_of_lines_cut :
    ((start "Building hello").calls cutProgress).1.filterMap Effect.call? = cutProgress ∧
    (start "Building hello").statuses cutProgress =
      [("Building hello: Compiling near-sdk v5" : Text), ("Building hello: Checking a  b" : Text)] ∧
    (start "Building hello").statuses [.append (Call.appended cutProgress)] =
      (start "Building hello").statuses cutProgress ∧
    (∃ verb rest, IsStep verb rest (Text.strip "Checking\t a  b ") ∧ rest ≠ []) ∧
    (((start "Building hello").calls cutProgress).2.perform .flush).1 = [.handOn .flush] := by
  obtain ⟨hhanded, hstatuses, hstep, hrest, hcut, hquiet⟩ := statuses_of_lines "Building hello" cutProgress
  have hline : IsStep "Checking" "a  b" (Text.strip "Checking\t a  b ") := (hstep _ _ _).1 (by decide)
  refine ⟨hhanded, ?_, hcut _ (List.append_nil _), ⟨_, _, hline, (hrest _ _ _ hline).1⟩, hquiet .flush nofun⟩
  rw [hstatuses]
  decide

end Sink.Progress

end ContractBuild
