import ContractBuild.Proofs.Hints
import ContractBuild.Proofs.Searches

/-!
# What a line complains about

The hint of a line in terms of what stands on the line. A phrase with a name in it is a relation between names and the
texts that start with the phrase; what counts is the leftmost place of a line where one starts (`Text.FirstNamed`).
Problems are tried in a fixed order, and the first that the line speaks of decides, wherever it does so
(`Toolchain.Tells`).

* `Toolchain.enclosedAt?_eq_some_iff`, `Toolchain.subcommandAt?_eq_some_iff`: what is found at a place.
* `Toolchain.mentionsTarget_iff`: a phrase that is looked for without regard to case.
* `Toolchain.classifyLine_tells`: the hint of a line.
-/

namespace ContractBuild

namespace Toolchain

/-! ## Names in quotes -/

/-- A text that starts with a name between `before` and `after`; the name is not empty and does not hold the quote. -/
def Encloses (before : Text) (quote : CodePoint) (after : Text) (name t : Text) : Prop :=
  name ≠ [] ∧ quote ∉ name ∧ before ++ name ++ after <+: t

/-- **A name in quotes** is found at the start of a text exactly when the text starts with it. -/
theorem enclosedAt?_eq_some_iff {before after : Text} {quote : CodePoint} (hafter : after.head? = some quote)
    (t name : Text) : enclosedAt? before quote after t = some name ↔ Encloses before quote after name t := by
  unfold enclosedAt? Encloses
  constructor
  · intro h
    split at h
    · cases h
    · rename_i rest hrest
      dsimp only at h
      split at h
      · rename_i hcond
        rw [Bool.and_eq_true, decide_eq_true_eq, Text.startsWith_iff] at hcond
        obtain rfl : rest.takeWhile (· ≠ quote) = name := Option.some.inj h
        refine ⟨hcond.1, fun hmem => ?_, ?_⟩
        · simpa using List.mem_takeWhile_imp hmem
        · obtain ⟨tail, htail⟩ := hcond.2
          refine ⟨tail, ?_⟩
          rw [Text.dropPrefix?_eq_some hrest, List.append_assoc, List.append_assoc, htail,
            List.takeWhile_append_dropWhile]
      · cases h
  · rintro ⟨hne, hquote, tail, rfl⟩
    obtain ⟨more, rfl⟩ : ∃ more, after = quote :: more := by
      cases after with
      | nil => cases hafter
      | cons c more => exact ⟨more, by rw [Option.some.inj hafter]⟩
    have hname : ∀ c ∈ name, decide (c ≠ quote) = true := fun c hc => decide_eq_true fun h => hquote (h ▸ hc)
    have hrest : (before ++ name ++ quote :: more ++ tail).dropPrefix? before =
        some (name ++ quote :: (more ++ tail)) := by
      rw [List.append_assoc, List.append_assoc]
      exact Text.dropPrefix?_append before _
    have htake : (name ++ quote :: (more ++ tail)).takeWhile (· ≠ quote) = name :=
      Text.takeWhile_append_of_stop hname (by simp)
    have hdrop : (name ++ quote :: (more ++ tail)).dropWhile (· ≠ quote) = quote :: (more ++ tail) := by
      rw [List.dropWhile_append_of_pos hname]
      simp
    have hstarts : Text.startsWith (quote :: (more ++ tail)) (quote :: more) = true :=
      Text.startsWith_iff.2 ⟨tail, rfl⟩
    rw [hrest]
    dsimp only
    rw [htake, hdrop, hstarts, decide_eq_true hne]
    rfl

/-- A text that starts by saying that a toolchain is not installed. -/
abbrev ToolchainPhrase : Text → Text → Prop := Encloses "toolchain '" '\'' "' is not installed"

/-- A text that starts by saying that a linker was not found. -/
abbrev LinkerPhrase : Text → Text → Prop := Encloses "linker `" '`' "` not found"

theorem toolchainName?_eq_some_iff {line name : Text} :
    toolchainName? line = some name ↔ Text.FirstNamed ToolchainPhrase line name :=
  Text.firstSuffix?_eq_some_iff_firstNamed (enclosedAt?_eq_some_iff rfl)

theorem toolchainName?_eq_none_iff {line : Text} : toolchainName? line = none ↔ ¬ Text.Occurs ToolchainPhrase line :=
  Text.firstSuffix?_eq_none_iff_not_occurs (enclosedAt?_eq_some_iff rfl)

theorem linkerName?_eq_some_iff {line name : Text} :
    linkerName? line = some name ↔ Text.FirstNamed LinkerPhrase line name :=
  Text.firstSuffix?_eq_some_iff_firstNamed (enclosedAt?_eq_some_iff rfl)

theorem linkerName?_eq_none_iff {line : Text} : linkerName? line = none ↔ ¬ Text.Occurs LinkerPhrase line :=
  Text.firstSuffix?_eq_none_iff_not_occurs (enclosedAt?_eq_some_iff rfl)

/-! ## Names of commands -/

/-- A text that starts by saying that there is no such command: "command" or "subcommand", at most one colon, any white
space, at most one quote, and then the name, which is all that follows of word characters and hyphens. -/
def SubcommandPhrase (name t : Text) : Prop :=
  ∃ sub colon space quote after : Text,
    t = "no such " ++ (sub ++ ("command" ++ (colon ++ (space ++ (quote ++ (name ++ after)))))) ∧
    (sub = [] ∨ sub = "sub") ∧ (colon = [] ∨ colon = ":") ∧ (∀ c ∈ space, c.isSpace = true) ∧
    (quote = [] ∨ quote = "`") ∧ name ≠ [] ∧ (∀ c ∈ name, isCommandPart c = true) ∧
    ∀ c ∈ after.head?, isCommandPart c = false

/-- The numbers of white space. -/
def spaces : List Nat := [
  0x09, 0x0A, 0x0B, 0x0C, 0x0D, 0x1C, 0x1D, 0x1E, 0x1F, 0x20, 0x85, 0xA0, 0x1680, 0x2000, 0x2001, 0x2002, 0x2003,
  0x2004, 0x2005, 0x2006, 0x2007, 0x2008, 0x2009, 0x200A, 0x2028, 0x2029, 0x202F, 0x205F, 0x3000]

theorem val_mem_spaces {c : CodePoint} (h : c.isSpace = true) : c.val ∈ spaces := by
  simp only [CodePoint.isSpace, Bool.or_eq_true, Bool.and_eq_true, decide_eq_true_eq, beq_iff_eq] at h
  simp only [spaces, List.mem_cons, List.not_mem_nil, or_false]
  omega

/-- A part of the name of a command is no white space. -/
theorem isSpace_of_isCommandPart {c : CodePoint} (h : isCommandPart c = true) : c.isSpace = false := by
  have hall : ∀ n ∈ spaces, Text.wordRanges.contains n = false ∧ n ≠ 0x2D := by decide +kernel
  rw [Bool.eq_false_iff]
  intro hspace
  obtain ⟨hword, hhyphen⟩ := hall _ (val_mem_spaces hspace)
  rw [isCommandPart, CodePoint.isWord, hword, Bool.false_or, decide_eq_true_eq] at h
  exact hhyphen (congrArg CodePoint.val h)

/-- The name of a command goes on as far as it can. -/
theorem subcommandAt?_eq {t rest rest' : Text} (hsuch : t = "no such " ++ rest)
    (hcommand : Text.skipOptional "sub" rest = "command" ++ rest') :
    subcommandAt? t =
      let name := (Text.skipOptional "`" (Text.skipOptional ":" rest').stripLeft).takeWhile isCommandPart
      if name ≠ [] then some name else none := by
  rw [subcommandAt?, hsuch, Text.dropPrefix?_append]
  dsimp only
  rw [hcommand, Text.dropPrefix?_append]

/-- **The name of a command** is found at the start of a text exactly when the text starts with the phrase. -/
theorem subcommandAt?_eq_some_iff (t name : Text) : subcommandAt? t = some name ↔ SubcommandPhrase name t := by
  constructor
  · intro h
    rw [subcommandAt?] at h
    split at h
    · cases h
    · rename_i rest hsuch
      split at h
      · cases h
      · rename_i rest' hcommand
        dsimp only at h
        split at h
        · rename_i hne
          obtain ⟨sub, hsub, hrest⟩ := Text.exists_skipOptional_eq "sub" rest
          obtain ⟨colon, hcolon, hrest'⟩ := Text.exists_skipOptional_eq ":" rest'
          let spaced := Text.skipOptional ":" rest'
          obtain ⟨quote, hquote, hname⟩ := Text.exists_skipOptional_eq "`" spaced.stripLeft
          let named := Text.skipOptional "`" spaced.stripLeft
          obtain rfl : named.takeWhile isCommandPart = name := Option.some.inj h
          refine ⟨sub, colon, spaced.takeWhile CodePoint.isSpace, quote, named.dropWhile isCommandPart, ?_, hsub, hcolon,
            fun c hc => List.mem_takeWhile_imp hc, hquote, hne, fun c hc => List.mem_takeWhile_imp hc, fun c hc => ?_⟩
          · rw [List.takeWhile_append_dropWhile, ← hname, Text.stripLeft, List.takeWhile_append_dropWhile, ← hrest',
              ← Text.dropPrefix?_eq_some hcommand, ← hrest, ← Text.dropPrefix?_eq_some hsuch]
          · have hstop := List.head?_dropWhile_not isCommandPart named
            rw [Option.mem_def.1 hc] at hstop
            simpa using hstop
        · cases h
  · rintro ⟨sub, colon, space, quote, after, rfl, hsub, hcolon, hspace, hquote, hne, hname, hafter⟩
    -- what starts with the name, and what starts with the quote or the name, starts with no part that comes before it
    have hnamed : ∀ c ∈ (name ++ after).head?, isCommandPart c = true := by
      intro c hc
      rw [List.head?_append_of_ne_nil name hne] at hc
      exact hname c (List.mem_of_mem_head? hc)
    have hquoted : ∀ c ∈ (quote ++ (name ++ after)).head?, c = '`' ∨ isCommandPart c = true := by
      rcases hquote with rfl | rfl
      · exact fun c hc => .inr (hnamed c hc)
      · exact fun c hc => .inl (Option.some.inj hc).symm
    have hspaced : ∀ c ∈ (space ++ (quote ++ (name ++ after))).head?,
        c.isSpace = true ∨ c = '`' ∨ isCommandPart c = true := by
      cases space with
      | nil => exact fun c hc => .inr (hquoted c hc)
      | cons d space => exact fun c hc => .inl (hspace c (by rw [← Option.some.inj hc]; exact List.mem_cons_self))
    have hsubSkipped := Text.skipOptional_part (t := "command" ++ (colon ++ (space ++ (quote ++ (name ++ after))))) hsub
      (by rintro ⟨u, hu⟩; cases hu)
    have hcolonSkipped := Text.skipOptional_part (t := space ++ (quote ++ (name ++ after))) hcolon <| by
      rintro ⟨u, hu⟩
      rcases hspaced _ (by rw [← hu]; rfl) with h | h | h <;> revert h <;> decide +kernel
    have hspaceSkipped := Text.stripLeft_append_of_stop (t := quote ++ (name ++ after)) hspace <| by
      intro c hc
      rcases hquoted c hc with rfl | h
      · decide
      · exact isSpace_of_isCommandPart h
    have hquoteSkipped := Text.skipOptional_part (t := name ++ after) hquote <| by
      rintro ⟨u, hu⟩
      have h := hnamed _ (by rw [← hu]; rfl)
      revert h
      decide +kernel
    rw [subcommandAt?_eq rfl hsubSkipped, hcolonSkipped, hspaceSkipped, hquoteSkipped,
      Text.takeWhile_append_of_stop hname hafter]
    exact if_pos hne

theorem subcommandName?_eq_some_iff {line name : Text} :
    subcommandName? line = some name ↔ Text.FirstNamed SubcommandPhrase line name :=
  Text.firstSuffix?_eq_some_iff_firstNamed subcommandAt?_eq_some_iff

theorem subcommandName?_eq_none_iff {line : Text} :
    subcommandName? line = none ↔ ¬ Text.Occurs SubcommandPhrase line :=
  Text.firstSuffix?_eq_none_iff_not_occurs subcommandAt?_eq_some_iff

end Toolchain

/-! ## Case -/

/-- What counts as a code point without capitals when case is ignored: the code point itself, the capital of an ASCII
letter, and four letters beyond ASCII that belong to `s`, `i` and `k`. -/
inductive CodePoint.Likened : CodePoint → CodePoint → Prop
  | itself (d : CodePoint) : Likened d d
  | capital {d c : CodePoint} (letter : 0x61 ≤ d.val ∧ d.val ≤ 0x7A) (case : c.val + 0x20 = d.val) : Likened d c
  | longS : Likened 's' (.ofNat 0x17F)
  | dottedCapitalI : Likened 'i' (.ofNat 0x130)
  | dotlessI : Likened 'i' (.ofNat 0x131)
  | kelvin : Likened 'k' (.ofNat 0x212A)

/-- An ASCII code point that is no capital. -/
def CodePoint.IsPlain (d : CodePoint) : Prop := d.val < 0x80 ∧ ¬ (0x41 ≤ d.val ∧ d.val ≤ 0x5A)

instance (d : CodePoint) : Decidable d.IsPlain := inferInstanceAs (Decidable (_ ∧ _))

/-- **Case is ignored** by comparing folded code points. -/
theorem CodePoint.folded_eq_iff {c d : CodePoint} (hd : d.IsPlain) : d = c.folded ↔ Likened d c := by
  obtain ⟨hsmall, hcapital⟩ := hd
  constructor
  · intro h
    unfold folded at h
    split_ifs at h with hupper hs hi hk
    · rw [Bool.and_eq_true, decide_eq_true_eq, decide_eq_true_eq] at hupper
      have hval : d.val = c.val + 0x20 := by rw [h, val_ofNat (by omega)]
      exact .capital (by omega) hval.symm
    · obtain rfl : c = .ofNat 0x17F := CodePoint.ext hs
      rw [h]
      exact .longS
    · rw [Bool.or_eq_true, decide_eq_true_eq, decide_eq_true_eq] at hi
      rw [h]
      rcases hi with hi | hi
      · obtain rfl : c = .ofNat 0x130 := CodePoint.ext hi
        exact .dottedCapitalI
      · obtain rfl : c = .ofNat 0x131 := CodePoint.ext hi
        exact .dotlessI
    · obtain rfl : c = .ofNat 0x212A := CodePoint.ext hk
      rw [h]
      exact .kelvin
    · rw [h]
      exact .itself c
  · intro h
    cases h with
    | itself =>
      have hne : c.val ≠ 0x17F ∧ c.val ≠ 0x130 ∧ c.val ≠ 0x131 ∧ c.val ≠ 0x212A := by omega
      simp [folded, hne, hcapital]
    | capital letter case =>
      have hupper : 0x41 ≤ c.val ∧ c.val ≤ 0x5A := by omega
      refine CodePoint.ext ?_
      simp only [folded, hupper, decide_true, Bool.and_self, if_true]
      rw [val_ofNat (by omega), case]
    | longS | dottedCapitalI | dotlessI | kelvin => rfl

namespace Text

/-- A phrase occurs in a text when case is ignored. -/
def OccursIgnoringCase (p t : Text) : Prop := ∃ w, w <:+: t ∧ List.Forall₂ CodePoint.Likened p w

theorem eq_map_folded_iff {p w : Text} (hp : ∀ d ∈ p, d.IsPlain) :
    p = w.map CodePoint.folded ↔ List.Forall₂ CodePoint.Likened p w := by
  induction p generalizing w with
  | nil => cases w <;> simp
  | cons d p ih =>
    obtain ⟨hd, hp⟩ := List.forall_mem_cons.1 hp
    cases w with
    | nil => simp
    | cons c w => rw [List.map_cons, List.cons.injEq, List.forall₂_cons, CodePoint.folded_eq_iff hd, ih hp]

theorem contains_map_folded_iff {p t : Text} (hp : ∀ d ∈ p, d.IsPlain) :
    Text.contains (t.map CodePoint.folded) p = true ↔ OccursIgnoringCase p t := by
  rw [contains_iff, List.infix_map_iff]
  simp only [eq_map_folded_iff hp, OccursIgnoringCase]

end Text

namespace Toolchain

/-- A line that speaks of a target that is not installed. -/
def MentionsTarget (line : Text) : Prop :=
  Text.OccursIgnoringCase "target may not be installed" line ∨
    ("can't find crate for `core`" : Text) <:+: line ∨ ("can't find crate for `std`" : Text) <:+: line

theorem mentionsTarget_iff {line : Text} : mentionsTarget line = true ↔ MentionsTarget line := by
  have hplain : ∀ d ∈ Text.ofString "target may not be installed", d.IsPlain := by decide
  rw [mentionsTarget, Bool.or_eq_true, Bool.or_eq_true, Text.contains_map_folded_iff hplain, Text.contains_iff,
    Text.contains_iff, or_assoc, MentionsTarget]

/-! ## Lines -/

/-- **What a line tells of**: the first problem in the order of the cases, wherever on the line it is spoken of. -/
inductive Tells (line : Text) : Option Hint → Prop
  | target (target : MentionsTarget line) : Tells line (some .missingTarget)
  | toolchain {name : Text} (target : ¬ MentionsTarget line) (toolchain : Text.FirstNamed ToolchainPhrase line name) :
      Tells line (some (.missingToolchain name))
  | subcommand {name : Text} (target : ¬ MentionsTarget line) (toolchain : ¬ Text.Occurs ToolchainPhrase line)
      (subcommand : Text.FirstNamed SubcommandPhrase line name) : Tells line (some (.missingSubcommand name))
  | linker {name : Text} (target : ¬ MentionsTarget line) (toolchain : ¬ Text.Occurs ToolchainPhrase line)
      (subcommand : ¬ Text.Occurs SubcommandPhrase line) (linker : Text.FirstNamed LinkerPhrase line name) :
      Tells line (some (.missingLinker name))
  | manifest (target : ¬ MentionsTarget line) (toolchain : ¬ Text.Occurs ToolchainPhrase line)
      (subcommand : ¬ Text.Occurs SubcommandPhrase line) (linker : ¬ Text.Occurs LinkerPhrase line)
      (manifest : ("could not find `Cargo.toml`" : Text) <:+: line) : Tells line (some .missingManifest)
  | nothing (target : ¬ MentionsTarget line) (toolchain : ¬ Text.Occurs ToolchainPhrase line)
      (subcommand : ¬ Text.Occurs SubcommandPhrase line) (linker : ¬ Text.Occurs LinkerPhrase line)
      (manifest : ¬ ("could not find `Cargo.toml`" : Text) <:+: line) : Tells line none

/-- The hint of a line is one that the line tells of. -/
theorem tells_ofLine? (line : Text) : Tells line (Hint.ofLine? line) := by
  unfold Hint.ofLine?
  by_cases htarget : mentionsTarget line = true
  · rw [if_pos htarget]
    exact .target (mentionsTarget_iff.1 htarget)
  · rw [if_neg htarget]
    replace htarget : ¬ MentionsTarget line := fun h => htarget (mentionsTarget_iff.2 h)
    cases htoolchain : toolchainName? line with
    | some name => exact .toolchain htarget (toolchainName?_eq_some_iff.1 htoolchain)
    | none =>
      replace htoolchain := toolchainName?_eq_none_iff.1 htoolchain
      cases hsubcommand : subcommandName? line with
      | some name => exact .subcommand htarget htoolchain (subcommandName?_eq_some_iff.1 hsubcommand)
      | none =>
        replace hsubcommand := subcommandName?_eq_none_iff.1 hsubcommand
        cases hlinker : linkerName? line with
        | some name => exact .linker htarget htoolchain hsubcommand (linkerName?_eq_some_iff.1 hlinker)
        | none =>
          replace hlinker := linkerName?_eq_none_iff.1 hlinker
          by_cases hmanifest : mentionsManifest line = true
          · dsimp only
            rw [if_pos hmanifest]
            exact .manifest htarget htoolchain hsubcommand hlinker (Text.contains_iff.1 hmanifest)
          · dsimp only
            rw [if_neg hmanifest]
            exact .nothing htarget htoolchain hsubcommand hlinker fun h => hmanifest (Text.contains_iff.2 h)

/-- A line tells of one thing only. -/
theorem Tells.eq_ofLine? {line : Text} {hint : Option Hint} (h : Tells line hint) : Hint.ofLine? line = hint := by
  unfold Hint.ofLine?
  cases h with
  | target target => rw [if_pos (mentionsTarget_iff.2 target)]
  | toolchain target toolchain =>
    rw [if_neg (mentionsTarget_iff.not.2 target), toolchainName?_eq_some_iff.2 toolchain]
  | subcommand target toolchain subcommand =>
    rw [if_neg (mentionsTarget_iff.not.2 target), toolchainName?_eq_none_iff.2 toolchain,
      subcommandName?_eq_some_iff.2 subcommand]
  | linker target toolchain subcommand linker =>
    rw [if_neg (mentionsTarget_iff.not.2 target), toolchainName?_eq_none_iff.2 toolchain,
      subcommandName?_eq_none_iff.2 subcommand, linkerName?_eq_some_iff.2 linker]
  | manifest target toolchain subcommand linker manifest =>
    rw [if_neg (mentionsTarget_iff.not.2 target), toolchainName?_eq_none_iff.2 toolchain,
      subcommandName?_eq_none_iff.2 subcommand, linkerName?_eq_none_iff.2 linker]
    exact if_pos (Text.contains_iff.2 manifest)
  | nothing target toolchain subcommand linker manifest =>
    rw [if_neg (mentionsTarget_iff.not.2 target), toolchainName?_eq_none_iff.2 toolchain,
      subcommandName?_eq_none_iff.2 subcommand, linkerName?_eq_none_iff.2 linker]
    exact if_neg (Text.contains_iff.not.2 manifest)

/-- **The hint of a line.** Every line tells of exactly one thing, which may be nothing, and its hint is the one given
and recorded. In particular a line that says first of all toolchains of `name` that it is not installed, and does not
speak of the target, gives the hint about `name`, whatever else stands on it. -/
theorem classifyLine_tells (known : List Text) (line : Text) :
    (∃ hint, (∀ other, Tells line other ↔ other = hint) ∧ Hint.ofLine? line = hint ∧
      classifyLine known line = (hint.map Hint.message, record known hint)) ∧
    ∀ before name after : Text, name ≠ [] → CodePoint.ofChar '\'' ∉ name →
      line = before ++ ("toolchain '" ++ name ++ "' is not installed" ++ after) →
      (∀ before' rest' name', line = before' ++ rest' → ToolchainPhrase name' rest' → before.length ≤ before'.length) →
      ¬ MentionsTarget line → Hint.ofLine? line = some (.missingToolchain name) := by
  refine ⟨⟨Hint.ofLine? line, fun other => ⟨fun h => h.eq_ofLine?.symm, ?_⟩, rfl, classifyLine_eq known line⟩, ?_⟩
  · rintro rfl
    exact tells_ofLine? line
  · intro before name after hne hquote hline hfirst htarget
    have hphrase : ToolchainPhrase name ("toolchain '" ++ name ++ "' is not installed" ++ after) :=
      ⟨hne, hquote, List.prefix_append _ after⟩
    exact (Tells.toolchain htarget ⟨before, _, hline, hphrase, hfirst⟩).eq_ofLine?

/-- A line on which a quote is opened twice before a toolchain is said not to be installed, behind two other problems. -/
def nested : Text := "linker `ld` not found, no such command: x, toolchain 'a toolchain 'b c' is not installed"

/-- A line that names two toolchains. -/
def twice : Text := "toolchain 'a' is not installed, toolchain 'b' is not installed"

/-- The first of these lines tells of the inner name, the second one of its first name. -/
theorem classifyLine_tells_nested :
    Tells nested (some (.missingToolchain "b c")) ∧
    classifyLine [] nested = (some (Hint.missingToolchain "b c").message, [(Hint.missingToolchain "b c").message]) ∧
    Hint.ofLine? twice = some (.missingToolchain "a") := by
  obtain ⟨⟨hint, htells, hhint, hclassify⟩, -⟩ := classifyLine_tells [] nested
  obtain rfl : some (.missingToolchain "b c") = hint := by
    rw [← hhint]
    decide +kernel
  refine ⟨(htells _).2 rfl, hclassify, ?_⟩
  obtain ⟨-, hnamed⟩ := classifyLine_tells [] twice
  refine hnamed [] "a" ", toolchain 'b' is not installed" (by decide) (by decide) (by decide +kernel)
    (fun _ _ _ _ _ => Nat.zero_le _) ?_
  rw [← mentionsTarget_iff]
  decide +kernel

end Toolchain

end ContractBuild
