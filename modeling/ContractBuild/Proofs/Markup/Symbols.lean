import ContractBuild.Proofs.Affixes
import ContractBuild.Screen.Markup
import Mathlib.Data.List.TakeWhile

/-!
# Names of symbols in a text

The words of a text are cut at their colons, and every second part that has a colon behind it is a name
(`Markup.names`). A text in which no name stands for a symbol stays as it is (`Markup.replaceSymbols_eq_self`), and where one
does, there are fewer colons in what is shown (`Markup.count_replaceSymbols`).
-/

namespace ContractBuild.Screen.Markup

/-! ## Names -/

/-- The colon. -/
abbrev colon : CodePoint := ':'

/-- Every second of some parts, as far as there is another one behind it. -/
def between : List Text → List Text
  | _ :: name :: next :: parts => name :: between (next :: parts)
  | _ => []

/-- The names in a text that may stand for symbols. -/
def names (t : Text) : List Text := (t.splitOnP CodePoint.isSpace).flatMap fun word => between (word.splitOn colon)

/-- A name without the ending that chooses how its symbol looks. -/
def baseName : Text → Text
  | [] => []
  | c :: t => if c :: t = "-emoji" ∨ c :: t = "-text" then [] else c :: baseName t

/-- No name in a text stands for a symbol. -/
def Unnamed (symbols : Symbols) (t : Text) : Prop := ∀ name ∈ names t, symbols.named? (baseName name).lower = none

/-- There is neither a colon nor white space in a text. -/
def IsPart (t : Text) : Prop := ∀ c ∈ t, c ≠ colon ∧ c.isSpace = false

theorem IsPart.of_cons {c : CodePoint} {t : Text} (h : IsPart (c :: t)) : IsPart t :=
  fun d hd => h d (List.mem_cons_of_mem c hd)

theorem isSpace_colon : colon.isSpace = false := by decide

theorem between_modifyHead (f : Text → Text) (parts : List Text) : between (parts.modifyHead f) = between parts := by
  match parts with
  | [] | [_] | [_, _] | _ :: _ :: _ :: _ => rfl

theorem names_nil : names [] = [] := by
  rw [names, List.splitOnP_nil, List.flatMap_singleton, List.splitOn, List.splitOnP_nil]
  rfl

theorem names_cons_of_ne {c : CodePoint} (hc : c ≠ colon) (t : Text) : names (c :: t) = names t := by
  rw [names, List.splitOnP_cons_eq_if_modifyHead]
  split
  · rw [List.flatMap_cons, List.splitOn, List.splitOnP_nil]
    rfl
  · obtain ⟨word, words, hwords⟩ := List.exists_cons_of_ne_nil (List.splitOnP_ne_nil CodePoint.isSpace t)
    rw [names, hwords, List.modifyHead_cons, List.flatMap_cons, List.flatMap_cons, List.splitOn_cons_eq_if_modifyHead,
      if_neg (by simpa using hc), between_modifyHead]

theorem splitOnP_append_of_isPart {t : Text} (h : IsPart t) (s : Text) :
    (t ++ s).splitOnP CodePoint.isSpace = (s.splitOnP CodePoint.isSpace).modifyHead (t ++ ·) := by
  induction t with
  | nil => exact (congrFun List.modifyHead_id _).symm
  | cons c t ih =>
    rw [List.cons_append, List.splitOnP_cons_eq_if_modifyHead, (h c List.mem_cons_self).2, ih h.of_cons,
      List.modifyHead_modifyHead]
    rfl

theorem splitOn_append_of_isPart {t : Text} (h : IsPart t) (s : Text) :
    (t ++ s).splitOn colon = (s.splitOn colon).modifyHead (t ++ ·) := by
  induction t with
  | nil => exact (congrFun List.modifyHead_id _).symm
  | cons c t ih =>
    rw [List.cons_append, List.splitOn_cons_eq_if_modifyHead, if_neg (by simpa using (h c List.mem_cons_self).1),
      ih h.of_cons, List.modifyHead_modifyHead]
    rfl

/-- A part between two colons is a name. -/
theorem names_cons_name {name : Text} (h : IsPart name) (rest : Text) :
    names (colon :: (name ++ colon :: rest)) = name :: names rest := by
  obtain ⟨word, words, hwords⟩ := List.exists_cons_of_ne_nil (List.splitOnP_ne_nil CodePoint.isSpace rest)
  obtain ⟨part, parts, hparts⟩ := List.exists_cons_of_ne_nil (List.splitOn_ne_nil colon word)
  have hsplit : (colon :: (name ++ colon :: rest)).splitOnP CodePoint.isSpace =
      (colon :: (name ++ colon :: word)) :: words := by
    rw [List.splitOnP_cons_eq_if_modifyHead, isSpace_colon, splitOnP_append_of_isPart h,
      List.splitOnP_cons_eq_if_modifyHead, isSpace_colon, hwords]
    rfl
  have hword : (colon :: (name ++ colon :: word)).splitOn colon = [] :: name :: part :: parts := by
    rw [List.splitOn_cons_eq_if_modifyHead, if_pos BEq.rfl, splitOn_append_of_isPart h,
      List.splitOn_cons_eq_if_modifyHead, if_pos BEq.rfl, hparts]
    simp
  rw [names, hsplit, List.flatMap_cons, hword, names, hwords, List.flatMap_cons, hparts]
  rfl

/-- A colon with no other one behind it in its word begins no name. -/
theorem names_cons_lone {word after : Text} (h : IsPart word) (hafter : ∀ c ∈ after.head?, c.isSpace = true) :
    names (colon :: (word ++ after)) = names (word ++ after) := by
  obtain ⟨words, hwords⟩ : ∃ words, (word ++ after).splitOnP CodePoint.isSpace = word :: words := by
    rw [splitOnP_append_of_isPart h]
    cases after with
    | nil => exact ⟨[], by rw [List.splitOnP_nil]; simp⟩
    | cons c after =>
      rw [List.splitOnP_cons_eq_if_modifyHead, if_pos (hafter c rfl)]
      exact ⟨_, by rw [List.modifyHead_cons, List.append_nil]⟩
  have hword : word.splitOn colon = [word] := by
    rw [List.splitOn, List.splitOnP_eq_singleton fun c hc => by simpa using (h c hc).1]
  rw [names, List.splitOnP_cons_eq_if_modifyHead, isSpace_colon, if_neg Bool.false_ne_true, hwords, names, hwords,
    List.modifyHead_cons, List.flatMap_cons, List.flatMap_cons, List.splitOn_cons_eq_if_modifyHead, if_pos BEq.rfl, hword]
  rfl

/-- How a text is read from its start: what is no colon is passed over, and so is a colon with no other one behind it in its
word; a part between two colons is a name. -/
inductive Named : Text → Prop
  | nil : Named []
  | other {c : CodePoint} {t : Text} (ne : c ≠ colon) (rest : Named t) : Named (c :: t)
  | lone {word after : Text} (isPart : IsPart word) (space : ∀ c ∈ after.head?, c.isSpace = true)
      (rest : Named (word ++ after)) : Named (colon :: (word ++ after))
  | name {name t : Text} (isPart : IsPart name) (rest : Named t) : Named (colon :: (name ++ colon :: t))

theorem named (t : Text) : Named t := by
  induction hlength : t.length using Nat.strong_induction_on generalizing t with
  | _ length ih =>
    cases t with
    | nil => exact .nil
    | cons c t =>
      rw [List.length_cons] at hlength
      by_cases hc : c = colon
      · subst hc
        have hword : IsPart (t.takeWhile fun c => c ≠ colon && !c.isSpace) := by
          intro c hmem
          simpa using List.mem_takeWhile_imp hmem
        have hsplit := List.takeWhile_append_dropWhile (p := fun c => c ≠ colon && !c.isSpace) (l := t)
        generalize t.takeWhile (fun c => c ≠ colon && !c.isSpace) = word at hword hsplit
        cases hafter : t.dropWhile fun c => c ≠ colon && !c.isSpace with
        | nil =>
          rw [hafter] at hsplit
          rw [← hsplit]
          exact .lone hword nofun (hsplit ▸ ih t.length (by omega) t rfl)
        | cons d after =>
          have hd := List.head?_dropWhile_not (fun c => c ≠ colon && !c.isSpace) t
          rw [hafter] at hsplit hd
          rw [← hsplit]
          by_cases hcolon : d = colon
          · subst hcolon
            have hcount := congrArg List.length hsplit
            rw [List.length_append, List.length_cons] at hcount
            exact .name hword (ih after.length (by omega) after rfl)
          · refine .lone hword (fun c hc => ?_) (hsplit ▸ ih t.length (by omega) t rfl)
            obtain rfl := Option.some.inj hc
            simpa [hcolon] using hd
      · exact .other hc (ih t.length (by omega) t rfl)

/-! ## Replacing -/

/-- The look that is chosen at the start of a text, and the rest behind it. -/
def lookAt? (t : Text) : Option (Text × Text) :=
  looks.findSome? fun (ending, selector) => (Text.dropPrefix? t ending).map fun rest => (selector, rest)

theorem nameEnd?_cons (c : CodePoint) (t : Text) : nameEnd? (c :: t) = match lookAt? (c :: t) with
    | some (selector, rest) => some ([], selector, rest)
    | none => if c.isSpace then none else (nameEnd? t).map fun (name, rest) => (c :: name, rest) := rfl

theorem lookAt?_eq (t : Text) : lookAt? t =
    ((Text.dropPrefix? t ("-emoji" ++ [colon])).map fun rest => (("\uFE0F" : Text), rest)).or
      (((Text.dropPrefix? t ("-text" ++ [colon])).map fun rest => (("\uFE0E" : Text), rest)).or
        ((Text.dropPrefix? t ([] ++ [colon])).map fun rest => (([] : Text), rest))) := by
  have hemoji : ("-emoji:" : Text) = "-emoji" ++ [colon] := rfl
  have htext : ("-text:" : Text) = "-text" ++ [colon] := rfl
  have hplain : (":" : Text) = [] ++ [colon] := rfl
  unfold lookAt? looks
  simp only [List.findSome?_cons, List.findSome?_nil, hemoji, htext, hplain]
  cases Text.dropPrefix? t ("-emoji" ++ [colon]) <;> cases Text.dropPrefix? t ("-text" ++ [colon]) <;>
    cases Text.dropPrefix? t ([] ++ [colon]) <;> rfl

theorem dropPrefix?_part {t e : Text} (ht : IsPart t) (he : IsPart e) (rest : Text) :
    Text.dropPrefix? (t ++ colon :: rest) (e ++ [colon]) = if t = e then some rest else none := by
  induction t generalizing e with
  | nil =>
    cases e with
    | nil => cases rest <;> rfl
    | cons d e => exact if_neg (Ne.symm (he d List.mem_cons_self).1)
  | cons c t ih =>
    have hc := (ht c List.mem_cons_self).1
    cases e with
    | nil => exact if_neg hc
    | cons d e =>
      rw [List.cons_append, List.cons_append, Text.dropPrefix?, ih ht.of_cons he.of_cons]
      by_cases hcd : c = d
      · rw [if_pos hcd, hcd]
        exact if_congr (by rw [List.cons.injEq]; exact ⟨fun h => ⟨rfl, h⟩, And.right⟩) rfl rfl
      · rw [if_neg hcd, if_neg fun h => hcd (List.cons.inj h).1]

theorem dropPrefix?_lone {t e after : Text} (ht : IsPart t) (he : IsPart e)
    (hafter : ∀ c ∈ after.head?, c.isSpace = true) : Text.dropPrefix? (t ++ after) (e ++ [colon]) = none := by
  refine Option.eq_none_iff_forall_ne_some.2 fun rest h => ?_
  have hsplit := Text.dropPrefix?_eq_some h
  rw [List.append_assoc] at hsplit
  have hspace (c : CodePoint) (hc : c ∈ after.head?) : c.isSpace ≠ false := by
    rw [hafter c hc]
    exact Bool.noConfusion
  obtain ⟨more, rfl, hmore⟩ | ⟨more, rfl, hmore⟩ := List.append_eq_append_iff.1 hsplit
  · cases more with
    | nil => exact hspace colon (by rw [hmore]; rfl) isSpace_colon
    | cons c more => exact hspace c (by rw [hmore]; rfl) (he c (List.mem_append_right t List.mem_cons_self)).2
  · cases more with
    | nil => exact hspace colon (by rw [← List.nil_append after, ← hmore]; rfl) isSpace_colon
    | cons c more =>
      obtain ⟨rfl, -⟩ := List.cons.inj hmore
      exact (ht colon (List.mem_append_right e List.mem_cons_self)).1 rfl

theorem isPart_emoji : IsPart "-emoji" := by
  unfold IsPart
  decide

theorem isPart_text : IsPart "-text" := by
  unfold IsPart
  decide

theorem isPart_nil : IsPart [] := nofun

theorem lookAt?_part {t : Text} (h : IsPart t) (rest : Text) : lookAt? (t ++ colon :: rest) =
    if t = "-emoji" then some (("\uFE0F" : Text), rest) else if t = "-text" then some (("\uFE0E" : Text), rest)
      else if t = [] then some (([] : Text), rest) else none := by
  rw [lookAt?_eq, dropPrefix?_part h isPart_emoji, dropPrefix?_part h isPart_text, dropPrefix?_part h isPart_nil]
  split
  · rfl
  · split
    · rfl
    · split <;> rfl

theorem lookAt?_lone {t after : Text} (h : IsPart t) (hafter : ∀ c ∈ after.head?, c.isSpace = true) :
    lookAt? (t ++ after) = none := by
  rw [lookAt?_eq, dropPrefix?_lone h isPart_emoji hafter, dropPrefix?_lone h isPart_text hafter,
    dropPrefix?_lone h isPart_nil hafter]
  rfl

/-- A part up to a colon is a name and perhaps the choice of a look. -/
theorem nameEnd?_part {t : Text} (h : IsPart t) :
    ∃ selector, colon ∉ selector ∧ ∀ rest, nameEnd? (t ++ colon :: rest) = some (baseName t, selector, rest) := by
  induction t with
  | nil =>
    refine ⟨[], List.not_mem_nil, fun rest => ?_⟩
    have hlook := lookAt?_part h rest
    rw [if_neg (show ([] : Text) ≠ "-emoji" by decide), if_neg (show ([] : Text) ≠ "-text" by decide), if_pos rfl,
      List.nil_append] at hlook
    rw [List.nil_append, nameEnd?_cons, hlook]
    rfl
  | cons c t ih =>
    have hlook := lookAt?_part h
    by_cases hemoji : c :: t = "-emoji"
    · refine ⟨"\uFE0F", by decide, fun rest => ?_⟩
      have hat := hlook rest
      rw [if_pos hemoji, List.cons_append] at hat
      rw [List.cons_append, nameEnd?_cons, hat, baseName, if_pos (Or.inl hemoji)]
    · by_cases htext : c :: t = "-text"
      · refine ⟨"\uFE0E", by decide, fun rest => ?_⟩
        have hat := hlook rest
        rw [if_neg hemoji, if_pos htext, List.cons_append] at hat
        rw [List.cons_append, nameEnd?_cons, hat, baseName, if_pos (Or.inr htext)]
      · obtain ⟨selector, hselector, hname⟩ := ih h.of_cons
        refine ⟨selector, hselector, fun rest => ?_⟩
        have hat := hlook rest
        rw [if_neg hemoji, if_neg htext, if_neg (List.cons_ne_nil c t), List.cons_append] at hat
        rw [List.cons_append, nameEnd?_cons, hat, baseName, if_neg (not_or.2 ⟨hemoji, htext⟩)]
        dsimp only
        rw [(h c List.mem_cons_self).2, hname rest]
        rfl

theorem nameEnd?_lone {t after : Text} (h : IsPart t) (hafter : ∀ c ∈ after.head?, c.isSpace = true) :
    nameEnd? (t ++ after) = none := by
  induction t with
  | nil =>
    have hlook := lookAt?_lone h hafter
    rw [List.nil_append] at hlook ⊢
    cases after with
    | nil => rfl
    | cons c after =>
      rw [nameEnd?_cons, hlook]
      exact if_pos (hafter c rfl)
  | cons c t ih =>
    have hlook := lookAt?_lone h hafter
    rw [List.cons_append] at hlook ⊢
    rw [nameEnd?_cons, hlook]
    dsimp only
    rw [(h c List.mem_cons_self).2, ih h.of_cons]
    rfl

section

variable (symbols : Symbols)

theorem replaceFrom_skip (keep : Bool) (skip : Nat) (t : Text) :
    replaceFrom symbols keep skip t = (if keep then t.take skip else []) ++ replaceSymbols symbols (t.drop skip) := by
  induction t generalizing skip with
  | nil => cases skip <;> cases keep <;> rfl
  | cons c t ih =>
    cases skip with
    | zero =>
      have hfrom : replaceFrom symbols keep 0 (c :: t) = replaceSymbols symbols (c :: t) := by
        rw [replaceSymbols, replaceFrom, replaceFrom]
      rw [hfrom]
      cases keep <;> rfl
    | succ skip =>
      rw [replaceFrom, ih]
      cases keep <;> rfl

theorem replaceSymbols_cons_of_ne {c : CodePoint} (hc : c ≠ colon) (t : Text) :
    replaceSymbols symbols (c :: t) = c :: replaceSymbols symbols t := by
  rw [replaceSymbols, replaceFrom, if_neg hc, replaceSymbols]

theorem replaceSymbols_cons_lone {word after : Text} (h : IsPart word)
    (hafter : ∀ c ∈ after.head?, c.isSpace = true) :
    replaceSymbols symbols (colon :: (word ++ after)) = colon :: replaceSymbols symbols (word ++ after) := by
  rw [replaceSymbols, replaceFrom, if_pos rfl, nameEnd?_lone h hafter, replaceSymbols]

/-- A name is replaced by its symbol and the selector of its look, and kept when it has none. -/
theorem replaceSymbols_cons_name {name : Text} (h : IsPart name) :
    ∃ selector, colon ∉ selector ∧ ∀ rest, replaceSymbols symbols (colon :: (name ++ colon :: rest)) =
      match symbols.named? (baseName name).lower with
      | some symbol => symbol ++ selector ++ replaceSymbols symbols rest
      | none => colon :: (name ++ colon :: replaceSymbols symbols rest) := by
  obtain ⟨selector, hselector, hname⟩ := nameEnd?_part h
  refine ⟨selector, hselector, fun rest => ?_⟩
  have hlength : (name ++ colon :: rest).length - rest.length = (name ++ [colon]).length := by
    rw [List.length_append, List.length_append, List.length_cons, List.length_singleton]
    omega
  have htake : (name ++ colon :: rest).take (name ++ [colon]).length = name ++ [colon] := by
    rw [List.append_cons name colon rest]
    exact List.take_left
  have hdrop : (name ++ colon :: rest).drop (name ++ [colon]).length = rest := by
    rw [List.append_cons name colon rest]
    exact List.drop_left
  rw [replaceSymbols, replaceFrom, if_pos rfl, hname]
  dsimp only
  rw [replaceFrom_skip, replaceFrom_skip, hlength, htake, hdrop]
  cases symbols.named? (baseName name).lower with
  | some symbol => rfl
  | none => exact congrArg (colon :: ·) (List.append_assoc name [colon] _)

variable {symbols}

theorem IsPart.append {t s : Text} (ht : IsPart t) (hs : IsPart s) : IsPart (t ++ s) :=
  fun c hc => (List.mem_append.1 hc).elim (ht c) (hs c)

theorem replaceSymbols_of_not_mem {t : Text} (h : colon ∉ t) : replaceSymbols symbols t = t := by
  induction t with
  | nil => rfl
  | cons c t ih =>
    rw [List.mem_cons, not_or] at h
    rw [replaceSymbols_cons_of_ne symbols (Ne.symm h.1), ih h.2]

/-- What has neither a colon nor white space changes nothing before it. -/
theorem replaceSymbols_append {s : Text} (hs : IsPart s) (t : Text) :
    replaceSymbols symbols (t ++ s) = replaceSymbols symbols t ++ s := by
  induction named t with
  | nil => exact replaceSymbols_of_not_mem fun h => (hs colon h).1 rfl
  | other ne _ ih =>
    rw [List.cons_append, replaceSymbols_cons_of_ne symbols ne, replaceSymbols_cons_of_ne symbols ne, ih]
    rfl
  | @lone word after isPart space _ ih =>
    cases after with
    | nil =>
      have hlone := replaceSymbols_cons_lone symbols (isPart.append hs) space
      rw [List.append_nil] at hlone ih
      rw [replaceSymbols_cons_lone symbols isPart space, List.cons_append, List.append_nil, hlone, ih]
      rfl
    | cons c after =>
      have hlone : replaceSymbols symbols (colon :: (word ++ (c :: after ++ s))) =
          colon :: replaceSymbols symbols (word ++ (c :: after ++ s)) := replaceSymbols_cons_lone symbols isPart space
      rw [← List.append_assoc] at hlone
      rw [replaceSymbols_cons_lone symbols isPart space, List.cons_append, hlone, ih]
      rfl
  | @name name t isPart _ ih =>
    obtain ⟨selector, -, heq⟩ := replaceSymbols_cons_name symbols isPart
    rw [heq, List.cons_append, List.append_assoc, List.cons_append, heq, ih]
    cases symbols.named? (baseName name).lower with
    | some symbol => exact (List.append_assoc ..).symm
    | none => simp

/-- A text stays as it is where no name stands for a symbol. -/
theorem replaceSymbols_eq_self {t : Text} (h : Unnamed symbols t) : replaceSymbols symbols t = t := by
  induction named t with
  | nil => rfl
  | other ne _ ih =>
    rw [Unnamed, names_cons_of_ne ne] at h
    rw [replaceSymbols_cons_of_ne symbols ne, ih h]
  | lone isPart space _ ih =>
    rw [Unnamed, names_cons_lone isPart space] at h
    rw [replaceSymbols_cons_lone symbols isPart space, ih h]
  | @name name t isPart _ ih =>
    rw [Unnamed, names_cons_name isPart, List.forall_mem_cons] at h
    obtain ⟨selector, -, heq⟩ := replaceSymbols_cons_name symbols isPart
    rw [heq, h.1, ih h.2]

/-- There are fewer colons where a name is replaced. -/
theorem count_replaceSymbols (t : Text) : (replaceSymbols symbols t).count colon ≤ t.count colon ∧
    ((replaceSymbols symbols t).count colon = t.count colon → Unnamed symbols t) := by
  induction named t with
  | nil => exact ⟨Nat.le_refl _, fun _ => by rw [Unnamed, names_nil]; exact nofun⟩
  | other ne _ ih =>
    rw [Unnamed, names_cons_of_ne ne, replaceSymbols_cons_of_ne symbols ne, List.count_cons_of_ne ne,
      List.count_cons_of_ne ne]
    exact ih
  | lone isPart space _ ih =>
    rw [Unnamed, names_cons_lone isPart space, replaceSymbols_cons_lone symbols isPart space, List.count_cons_self,
      List.count_cons_self]
    exact ⟨Nat.succ_le_succ ih.1, fun h => ih.2 (Nat.succ.inj h)⟩
  | @name name t isPart _ ih =>
    have hname : name.count colon = 0 := List.count_eq_zero.2 fun hmem => (isPart colon hmem).1 rfl
    obtain ⟨selector, hselector, heq⟩ := replaceSymbols_cons_name symbols isPart
    rw [Unnamed, names_cons_name isPart, List.forall_mem_cons, heq]
    cases hsymbol : symbols.named? (baseName name).lower with
    | some symbol =>
      have hcount : (symbol ++ selector ++ replaceSymbols symbols t).count colon =
          (replaceSymbols symbols t).count colon := by
        rw [List.count_append, List.count_append, List.count_eq_zero.2 (symbols.no_colon _ _ hsymbol),
          List.count_eq_zero.2 hselector, Nat.zero_add]
      simp only [hcount, List.count_cons_self, List.count_append, hname]
      have hle := ih.1
      exact ⟨by omega, fun h => by omega⟩
    | none =>
      simp only [List.count_cons_self, List.count_append, hname]
      have hle := ih.1
      exact ⟨by omega, fun h => ⟨trivial, ih.2 (by omega)⟩⟩

end

end ContractBuild.Screen.Markup
