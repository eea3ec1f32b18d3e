import ContractBuild.Proofs.Affixes
import Mathlib.Data.List.TakeWhile
import ContractBuild.Screen.Markup

/-!
# Texts cut at their tags

A text is cut at its tags into stretches of plain text, with the backslashes and the tag behind each, and a last stretch
with the backslashes at the end (`Markup.Cut`, `Markup.exists_cut`). On a cut text, markup is what happens to each stretch:
escaping a text doubles the backslashes before a tag and adds one (`Markup.escape_text`), and reading markup halves them and
leaves out the tag when their number is even (`Markup.piecesFrom_text`).
-/

namespace ContractBuild.Screen.Markup

/-! ## Brackets -/

/-- The opening bracket. -/
abbrev openBracket : CodePoint := '['

/-- The closing bracket. -/
abbrev closeBracket : CodePoint := ']'

/-- There is no bracket in a text. -/
def Bare (t : Text) : Prop := openBracket ∉ t ∧ closeBracket ∉ t

theorem bare_copies (n : Nat) : Bare (Text.copies n backslash) := by
  constructor <;>
  · intro h
    exact absurd (List.eq_of_mem_replicate h) (by decide)

theorem Bare.of_append {t u : Text} (h : Bare (t ++ u)) : Bare t ∧ Bare u :=
  ⟨⟨fun ht => h.1 (List.mem_append_left u ht), fun ht => h.2 (List.mem_append_left u ht)⟩,
    fun hu => h.1 (List.mem_append_right t hu), fun hu => h.2 (List.mem_append_right t hu)⟩

theorem closing?_append {t : Text} (h : Bare t) (s : Text) :
    closing? (t ++ s) = (closing? s).map fun p => (t ++ p.1, p.2) := by
  induction t with
  | nil => exact Option.map_id'.symm
  | cons c t ih =>
    rw [Bare, List.mem_cons, not_or, List.mem_cons, not_or] at h
    rw [List.cons_append, closing?, if_neg (Ne.symm h.2.1), if_neg (Ne.symm h.1.1), ih ⟨h.1.2, h.2.2⟩, Option.map_map]
    rfl

theorem closing?_eq_some {t inner rest : Text} (h : closing? t = some (inner, rest)) :
    ∃ u, Bare u ∧ inner = u ++ [closeBracket] ∧ t = inner ++ rest := by
  induction t generalizing inner with
  | nil => cases h
  | cons c t ih =>
    rw [closing?] at h
    split at h
    · rename_i hc
      cases h
      exact ⟨[], ⟨List.not_mem_nil, List.not_mem_nil⟩, by rw [hc, List.nil_append], rfl⟩
    · rename_i hclose
      split at h
      · cases h
      · rename_i hopen
        obtain ⟨⟨inner', rest'⟩, hinner, heq⟩ := Option.map_eq_some_iff.1 h
        cases heq
        obtain ⟨u, hu, rfl, rfl⟩ := ih hinner
        refine ⟨c :: u, ?_, rfl, rfl⟩
        rw [Bare, List.mem_cons, not_or, List.mem_cons, not_or]
        exact ⟨⟨Ne.symm hopen, hu.1⟩, Ne.symm hclose, hu.2⟩

/-! ## Tags -/

/-- What stands in brackets, with the brackets. -/
def bracketed (c : CodePoint) (inner : Text) : Text := openBracket :: c :: (inner ++ [closeBracket])

/-- A tag: in brackets, with no bracket within, and begun by a code point that a tag may start with. -/
def IsTag (tag : Text) : Prop := ∃ c inner, startsTag c = true ∧ Bare inner ∧ tag = bracketed c inner

theorem startsTag_backslash : startsTag backslash = false := by decide

theorem startsTag_openBracket : startsTag openBracket = false := by decide

theorem copies_takeWhile (t : Text) :
    Text.copies (t.takeWhile (· = backslash)).length backslash = t.takeWhile (· = backslash) :=
  (List.eq_replicate_of_mem fun a ha => by simpa using List.mem_takeWhile_imp ha).symm

theorem tagAt?_tag {tag : Text} (h : IsTag tag) (n : Nat) (rest : Text) :
    tagAt? (Text.copies n backslash ++ (tag ++ rest)) = some (⟨n, tag⟩, rest) := by
  obtain ⟨c, inner, hc, hinner, rfl⟩ := h
  have hclosing : closing? (inner ++ [closeBracket] ++ rest) = some (inner ++ [closeBracket], rest) := by
    rw [List.append_assoc, closing?_append hinner]
    rfl
  have hcopies : ∀ a ∈ Text.copies n backslash, decide (a = backslash) = true :=
    fun a ha => decide_eq_true (List.eq_of_mem_replicate ha)
  have hdrop : (Text.copies n backslash ++ (bracketed c inner ++ rest)).dropWhile (· = backslash) =
      openBracket :: c :: (inner ++ [closeBracket] ++ rest) := by
    rw [List.dropWhile_append_of_pos hcopies]
    rfl
  have htake : (Text.copies n backslash ++ (bracketed c inner ++ rest)).takeWhile (· = backslash) =
      Text.copies n backslash := by
    rw [List.takeWhile_append_of_pos hcopies]
    exact List.append_nil _
  rw [tagAt?, hdrop]
  dsimp only
  rw [hc, hclosing, htake, Text.copies, List.length_replicate]
  rfl

theorem tagAt?_eq_some {t rest : Text} {tag : Tag} (h : tagAt? t = some (tag, rest)) :
    IsTag tag.text ∧ t = Text.copies tag.backslashes backslash ++ (tag.text ++ rest) := by
  rw [tagAt?] at h
  split at h
  · rename_i b c more hdrop
    split at h
    · rename_i hstart
      rw [Bool.and_eq_true, decide_eq_true_iff] at hstart
      obtain ⟨⟨inner, rest'⟩, hclosing, heq⟩ := Option.map_eq_some_iff.1 h
      cases heq
      obtain ⟨u, hu, rfl, rfl⟩ := closing?_eq_some hclosing
      refine ⟨⟨c, u, hstart.2, hu, by rw [hstart.1]; rfl⟩, ?_⟩
      have hsplit := List.takeWhile_append_dropWhile (p := (· = backslash)) (l := t)
      rw [hdrop] at hsplit
      rw [copies_takeWhile]
      exact hsplit.symm
    · cases h
  · cases h

/-- A text that goes on no tag begun before it. -/
def Shut (t : Text) : Prop := (∀ c rest, t = c :: rest → startsTag c = false) ∧ closing? t = none

theorem shut_copies (n : Nat) {t : Text} (h : Shut t) : Shut (Text.copies n backslash ++ t) := by
  refine ⟨fun c rest heq => ?_, ?_⟩
  · cases n with
    | zero => exact h.1 c rest heq
    | succ n =>
      obtain ⟨rfl, -⟩ := List.cons.inj heq
      exact startsTag_backslash
  · rw [closing?_append (bare_copies n), h.2]
    rfl

theorem shut_nil : Shut [] := ⟨nofun, rfl⟩

theorem shut_only_copies (n : Nat) : Shut (Text.copies n backslash) := by
  have h := shut_copies n shut_nil
  rwa [List.append_nil] at h

theorem shut_tag {tag : Text} (h : IsTag tag) (rest : Text) : Shut (tag ++ rest) := by
  obtain ⟨c, inner, -, -, rfl⟩ := h
  refine ⟨fun d rest heq => ?_, rfl⟩
  obtain ⟨rfl, -⟩ := List.cons.inj heq
  exact startsTag_openBracket

/-! ## Plain text -/

/-- A stretch of plain text: there is no tag in it, and no backslash at its end. -/
structure Plain (t : Text) : Prop where
  untagged : ∀ tag, IsTag tag → ¬ tag <:+: t
  unslashed : ¬ [backslash] <:+ t

theorem plain_nil : Plain [] where
  untagged := by
    rintro tag ⟨c, inner, -, -, rfl⟩ h
    cases List.infix_nil.1 h
  unslashed h := by cases List.suffix_nil.1 h

theorem Plain.of_cons {c : CodePoint} {t : Text} (h : Plain (c :: t)) : Plain t where
  untagged tag htag hin := h.untagged tag htag (hin.trans (List.suffix_cons c t).isInfix)
  unslashed hend := h.unslashed (hend.trans (List.suffix_cons c t))

theorem backslash_suffix {t : Text} (hne : t ≠ []) (h : ∀ c ∈ t, c = backslash) : [backslash] <:+ t :=
  ⟨t.dropLast, by rw [← h _ (List.getLast_mem hne), List.dropLast_append_getLast]⟩

/-- A tag that is cut in two goes on in the second part. -/
theorem not_shut_of_tag {start more : Text} (htag : IsTag (start ++ more)) (hstart : start ≠ []) (hmore : more ≠ [])
    (rest : Text) : ¬ Shut (more ++ rest) := by
  obtain ⟨c, inner, hc, hinner, heq⟩ := htag
  obtain ⟨b, start, rfl⟩ := List.exists_cons_of_ne_nil hstart
  obtain ⟨-, heq⟩ := List.cons.inj heq
  intro hshut
  cases start with
  | nil =>
    have hfalse := hshut.1 c (inner ++ [closeBracket] ++ rest) (by rw [show more = _ from heq]; rfl)
    rw [hc] at hfalse
    cases hfalse
  | cons d start =>
    -- what is left of the tag ends at its closing bracket, which is the first one
    obtain ⟨-, heq⟩ := List.cons.inj heq
    obtain ⟨more, b, rfl⟩ := (List.eq_nil_or_concat' more).resolve_left hmore
    obtain ⟨hinner', hb⟩ := List.append_inj' ((List.append_assoc start more [b]).trans heq) rfl
    obtain rfl := List.head_eq_of_cons_eq hb
    subst hinner'
    have hclosing := hshut.2
    rw [List.append_assoc, closing?_append hinner.of_append.2] at hclosing
    cases hclosing

/-- No tag starts in plain text, whatever goes on no tag behind it. -/
theorem Plain.tagAt?_eq_none {c : CodePoint} {t s : Text} (h : Plain (c :: t)) (hs : Shut s) :
    tagAt? (c :: (t ++ s)) = none := by
  refine Option.eq_none_iff_forall_ne_some.2 fun ⟨tag, rest⟩ hat => ?_
  obtain ⟨htag, hsplit⟩ := tagAt?_eq_some hat
  rw [← List.append_assoc, ← List.cons_append] at hsplit
  obtain ⟨more, hcut, rfl⟩ | ⟨more, hcut, -⟩ := List.append_eq_append_iff.1 hsplit
  · have hback : ∀ n, c :: t <+: Text.copies n backslash → [backslash] <:+ c :: t := fun n hstart =>
      backslash_suffix (List.cons_ne_nil c t) fun a ha => List.eq_of_mem_replicate (hstart.subset ha)
    obtain ⟨start, hstart, htext⟩ | ⟨back, hcopies, -⟩ := List.append_eq_append_iff.1 hcut
    · by_cases hempty : start = []
      · rw [hempty, List.append_nil] at hstart
        exact h.unslashed (hback _ ⟨[], by rw [List.append_nil, hstart]⟩)
      · by_cases hwhole : more = []
        · rw [hwhole, List.append_nil] at htext
          exact h.untagged tag.text htag ⟨_, [], by rw [List.append_nil, htext, hstart]⟩
        · exact not_shut_of_tag (htext ▸ htag) hempty hwhole rest hs
    · exact h.unslashed (hback _ ⟨back, hcopies.symm⟩)
  · exact h.untagged tag.text htag ⟨_, _, hcut.symm⟩

/-! ## Escaping and reading along a text -/

theorem escapeFrom_skip (skip : Nat) (t : Text) : escapeFrom skip t = escapeFrom 0 (t.drop skip) := by
  induction t generalizing skip with
  | nil => cases skip <;> rfl
  | cons c t ih =>
    cases skip with
    | zero => rfl
    | succ skip => rw [escapeFrom, ih, List.drop_succ_cons]

theorem piecesFrom_skip (piece : Text) (skip : Nat) (t : Text) :
    piecesFrom piece skip t = piecesFrom piece 0 (t.drop skip) := by
  induction t generalizing skip with
  | nil => cases skip <;> rfl
  | cons c t ih =>
    cases skip with
    | zero => rfl
    | succ skip => rw [piecesFrom, ih, List.drop_succ_cons]

theorem escapeFrom_of_none {c : CodePoint} {t : Text} (h : tagAt? (c :: t) = none) :
    escapeFrom 0 (c :: t) = c :: escapeFrom 0 t := by rw [escapeFrom, h]

theorem piecesFrom_of_none {c : CodePoint} {t : Text} (h : tagAt? (c :: t) = none) (piece : Text) :
    piecesFrom piece 0 (c :: t) = piecesFrom (c :: piece) 0 t := by rw [piecesFrom, h]

/-- What is skipped behind the first code point of a tag. -/
theorem drop_of_tag {c : CodePoint} {t rest : Text} {tag : Tag} (h : tagAt? (c :: t) = some (tag, rest)) :
    t.drop (t.length - rest.length) = rest := by
  obtain ⟨⟨d, inner, -, -, htext⟩, hsplit⟩ := tagAt?_eq_some h
  rw [← List.append_assoc] at hsplit
  cases hstart : Text.copies tag.backslashes backslash ++ tag.text with
  | nil =>
    rw [htext] at hstart
    exact absurd (List.append_eq_nil_iff.1 hstart).2 (List.cons_ne_nil _ _)
  | cons b start =>
    rw [hstart] at hsplit
    obtain ⟨-, ht⟩ := List.cons.inj (hsplit.trans (List.cons_append ..))
    rw [ht, List.length_append, Nat.add_sub_cancel]
    exact List.drop_left

theorem escapeFrom_tag {tag : Text} (h : IsTag tag) (n : Nat) (rest : Text) :
    escapeFrom 0 (Text.copies n backslash ++ (tag ++ rest)) =
      Text.copies (2 * n + 1) backslash ++ (tag ++ escapeFrom 0 rest) := by
  have hat := tagAt?_tag h n rest
  cases ht : Text.copies n backslash ++ (tag ++ rest) with
  | nil => rw [ht] at hat; cases hat
  | cons c t =>
    rw [ht] at hat
    rw [escapeFrom, hat]
    dsimp only
    rw [escapeFrom_skip, drop_of_tag hat, List.append_assoc]

/-- What is shown of a tag with backslashes before it: half of them, and the tag when one is left over. -/
def tagParts (n : Nat) (tag : Text) : List Text :=
  [Text.copies (n / 2) backslash, if n % 2 = 1 then tag else []]

theorem piecesFrom_tag {tag : Text} (h : IsTag tag) (piece : Text) (n : Nat) (rest : Text) :
    piecesFrom piece 0 (Text.copies n backslash ++ (tag ++ rest)) =
      piece.reverse :: tagParts n tag ++ piecesFrom [] 0 rest := by
  have hat := tagAt?_tag h n rest
  cases ht : Text.copies n backslash ++ (tag ++ rest) with
  | nil => rw [ht] at hat; cases hat
  | cons c t =>
    rw [ht] at hat
    rw [piecesFrom, hat]
    dsimp only
    rw [piecesFrom_skip, drop_of_tag hat]
    rfl

theorem escapeFrom_plain {t : Text} (h : Plain t) {s : Text} (hs : Shut s) :
    escapeFrom 0 (t ++ s) = t ++ escapeFrom 0 s := by
  induction t with
  | nil => rfl
  | cons c t ih =>
    rw [List.cons_append, escapeFrom_of_none (h.tagAt?_eq_none hs), ih h.of_cons, List.cons_append]

theorem piecesFrom_plain {t : Text} (h : Plain t) {s : Text} (hs : Shut s) (piece : Text) :
    piecesFrom piece 0 (t ++ s) = piecesFrom (t.reverse ++ piece) 0 s := by
  induction t generalizing piece with
  | nil => rfl
  | cons c t ih =>
    rw [List.cons_append, piecesFrom_of_none (h.tagAt?_eq_none hs), ih h.of_cons, List.reverse_cons, List.append_assoc]
    rfl

theorem tagAt?_copies (n : Nat) : tagAt? (Text.copies n backslash) = none := by
  refine Option.eq_none_iff_forall_ne_some.2 fun ⟨tag, rest⟩ hat => ?_
  obtain ⟨⟨c, inner, -, -, htext⟩, hsplit⟩ := tagAt?_eq_some hat
  have hmem : openBracket ∈ Text.copies n backslash := by
    rw [hsplit, htext]
    exact List.mem_append_right _ (List.mem_append_left _ List.mem_cons_self)
  exact absurd hmem (bare_copies n).1

theorem escapeFrom_copies (n : Nat) : escapeFrom 0 (Text.copies n backslash) = Text.copies n backslash := by
  induction n with
  | zero => rfl
  | succ n ih =>
    have hnone := tagAt?_copies (n + 1)
    rw [Text.copies, List.replicate_succ] at hnone ⊢
    rw [escapeFrom_of_none hnone, ← Text.copies, ih]

theorem piecesFrom_copies (piece : Text) (n : Nat) :
    piecesFrom piece 0 (Text.copies n backslash) = [piece.reverse ++ Text.copies n backslash] := by
  induction n generalizing piece with
  | zero => rw [Text.copies, List.replicate_zero, List.append_nil]; rfl
  | succ n ih =>
    have hnone := tagAt?_copies (n + 1)
    rw [Text.copies, List.replicate_succ] at hnone ⊢
    rw [piecesFrom_of_none hnone, ← Text.copies, ih, List.reverse_cons, List.append_assoc]
    rfl

/-! ## Cut texts -/

/-- A tag with the plain text and the backslashes before it. -/
structure Marked where
  piece : Text
  backslashes : Nat
  tag : Text
  plain : Plain piece
  isTag : IsTag tag

/-- A text that is cut at its tags. -/
structure Cut where
  marked : List Marked
  rest : Text
  backslashes : Nat
  plain : Plain rest

namespace Marked

/-- The text that is marked. -/
def text (m : Marked) : Text := m.piece ++ (Text.copies m.backslashes backslash ++ m.tag)

/-- The text with its tag escaped. -/
def escaped (m : Marked) : Marked := { m with backslashes := 2 * m.backslashes + 1 }

/-- What is shown of a text that is read as markup. -/
def parts (m : Marked) : List Text := m.piece :: tagParts m.backslashes m.tag

theorem escapeFrom_text (m : Marked) (s : Text) : escapeFrom 0 (m.text ++ s) = m.escaped.text ++ escapeFrom 0 s := by
  rw [text, List.append_assoc, List.append_assoc, escapeFrom_plain m.plain (shut_copies _ (shut_tag m.isTag s)),
    escapeFrom_tag m.isTag, text, escaped, List.append_assoc, List.append_assoc]

theorem piecesFrom_text (m : Marked) (s : Text) : piecesFrom [] 0 (m.text ++ s) = m.parts ++ piecesFrom [] 0 s := by
  rw [text, List.append_assoc, List.append_assoc, piecesFrom_plain m.plain (shut_copies _ (shut_tag m.isTag s)),
    piecesFrom_tag m.isTag, List.append_nil, List.reverse_reverse]
  rfl

end Marked

namespace Cut

/-- The text that is cut. -/
def text (c : Cut) : Text := c.marked.flatMap Marked.text ++ (c.rest ++ Text.copies c.backslashes backslash)

/-- The text with its tags escaped, and with a single backslash at the end doubled. -/
def escaped (c : Cut) : Cut where
  marked := c.marked.map Marked.escaped
  rest := c.rest
  backslashes := if c.backslashes = 1 then 2 else c.backslashes
  plain := c.plain

/-- What is shown of a text that is read as markup, part by part. -/
def parts (c : Cut) : List Text := c.marked.flatMap Marked.parts ++ [c.rest ++ Text.copies c.backslashes backslash]

theorem escapeFrom_text (c : Cut) :
    escapeFrom 0 c.text = { c with marked := c.marked.map Marked.escaped : Cut }.text := by
  obtain ⟨marked, rest, n, hplain⟩ := c
  induction marked with
  | nil =>
    exact (escapeFrom_plain hplain (shut_only_copies n)).trans (by rw [escapeFrom_copies]; rfl)
  | cons m marked ih =>
    rw [text, List.flatMap_cons, List.append_assoc, m.escapeFrom_text]
    exact congrArg (m.escaped.text ++ ·) ih |>.trans (List.append_assoc ..).symm

theorem piecesFrom_text (c : Cut) : piecesFrom [] 0 c.text = c.parts := by
  obtain ⟨marked, rest, n, hplain⟩ := c
  induction marked with
  | nil =>
    refine (piecesFrom_plain hplain (shut_only_copies n) []).trans ?_
    rw [piecesFrom_copies, List.append_nil, List.reverse_reverse]
    rfl
  | cons m marked ih =>
    rw [text, List.flatMap_cons, List.append_assoc, m.piecesFrom_text]
    exact congrArg (m.parts ++ ·) ih

/-- The text without the backslashes at its end. -/
def body (c : Cut) : Text := c.marked.flatMap Marked.text ++ c.rest

theorem text_eq (c : Cut) : c.text = c.body ++ Text.copies c.backslashes backslash := (List.append_assoc ..).symm

theorem body_unslashed (c : Cut) : ¬ [backslash] <:+ c.body := by
  obtain ⟨marked, rest, n, hplain⟩ := c
  rw [body]
  intro h
  cases hrest : rest with
  | cons b rest' =>
    refine hplain.unslashed (List.suffix_of_suffix_length_le h (List.suffix_append _ rest) ?_)
    rw [hrest]
    simp
  | nil =>
    dsimp only at h
    rw [hrest, List.append_nil] at h
    obtain rfl | ⟨marked, m, rfl⟩ := List.eq_nil_or_concat' marked
    · cases List.suffix_nil.1 h
    · -- the last tag ends with its bracket
      obtain ⟨c, inner, -, -, htag⟩ := m.isTag
      have hclose : [closeBracket] <:+ (marked ++ [m]).flatMap Marked.text := by
        rw [List.flatMap_append, List.flatMap_singleton, Marked.text, htag, bracketed]
        exact ⟨marked.flatMap Marked.text ++ (m.piece ++ (Text.copies m.backslashes backslash ++
          (openBracket :: c :: inner))), by simp⟩
      have heq := (List.suffix_of_suffix_length_le h hclose (Nat.le_refl 1)).eq_of_length rfl
      exact absurd (List.head_eq_of_cons_eq heq) (by decide)

/-- The number of backslashes at the end of a text, tested by its ends. -/
theorem copies_suffix_iff {t : Text} (ht : ¬ [backslash] <:+ t) {k n : Nat} (hk : 0 < k) :
    Text.copies k backslash <:+ t ++ Text.copies n backslash ↔ k ≤ n := by
  constructor
  · rintro ⟨before, h⟩
    by_contra hlt
    obtain ⟨more, rfl⟩ : ∃ more, k = (more + 1) + n := ⟨k - n - 1, by omega⟩
    have hcopies : Text.copies (more + 1 + n) backslash =
        Text.copies more backslash ++ [backslash] ++ Text.copies n backslash := by
      rw [Text.copies, ← List.replicate_append_replicate, List.replicate_succ']
      rfl
    rw [hcopies, ← List.append_assoc, ← List.append_assoc] at h
    exact ht ⟨_, List.append_cancel_right h⟩
  · intro hle
    obtain ⟨less, rfl⟩ : ∃ less, n = less + k := ⟨n - k, by omega⟩
    rw [Text.copies, Text.copies, ← List.replicate_append_replicate, ← List.append_assoc]
    exact List.suffix_append _ _

theorem endsWith_iff (c : Cut) {k : Nat} (hk : 0 < k) :
    c.text.endsWith (Text.copies k backslash) = true ↔ k ≤ c.backslashes := by
  rw [Text.endsWith_iff, text_eq, copies_suffix_iff c.body_unslashed hk]

/-- A text is escaped tag by tag. -/
theorem escape_text (c : Cut) : escape c.text = c.escaped.text := by
  let k : Cut := { c with marked := c.marked.map Marked.escaped }
  have hone : k.text.endsWith "\\" = true ↔ 1 ≤ c.backslashes := k.endsWith_iff Nat.one_pos
  have htwo : k.text.endsWith "\\\\" = true ↔ 2 ≤ c.backslashes := k.endsWith_iff Nat.two_pos
  have hsingle : (k.text.endsWith "\\" && !k.text.endsWith "\\\\") = true ↔ c.backslashes = 1 := by
    rw [Bool.and_eq_true, Bool.not_eq_true', ← Bool.not_eq_true, hone, htwo]
    omega
  rw [escape, escapeFrom_text]
  by_cases h : c.backslashes = 1
  · rw [if_pos (hsingle.2 h), text_eq, text_eq, escaped, if_pos h, List.append_assoc]
    dsimp only
    rw [h]
    rfl
  · rw [if_neg (mt hsingle.1 h), escaped, if_neg h]

end Cut

/-! ### Every text is cut -/

theorem Plain.cons {c : CodePoint} {t s : Text} (h : Plain t) (hnone : tagAt? (c :: (t ++ s)) = none)
    (hend : ¬ (t = [] ∧ c = backslash)) : Plain (c :: t) where
  untagged tag htag hin := by
    obtain ⟨rest, hrest⟩ | hin := List.infix_cons_iff.1 hin
    · have hat := tagAt?_tag htag 0 (rest ++ s)
      rw [show Text.copies 0 backslash = [] from rfl, List.nil_append, ← List.append_assoc, hrest, List.cons_append,
        hnone] at hat
      cases hat
    · exact h.untagged tag htag hin
  unslashed hsuffix := by
    obtain heq | hsuffix := List.suffix_cons_iff.1 hsuffix
    · obtain ⟨rfl, rfl⟩ := List.cons.inj heq
      exact hend ⟨rfl, rfl⟩
    · exact h.unslashed hsuffix

/-- A code point with which no tag starts is put before a text that is cut. -/
theorem Cut.exists_cons (k : Cut) {c : CodePoint} (h : tagAt? (c :: k.text) = none) : ∃ k' : Cut, k'.text = c :: k.text := by
  obtain ⟨marked, rest, n, hplain⟩ := k
  cases marked with
  | nil =>
    by_cases hslash : rest = [] ∧ c = backslash
    · obtain ⟨rfl, rfl⟩ := hslash
      exact ⟨⟨[], [], n + 1, hplain⟩, rfl⟩
    · exact ⟨⟨[], c :: rest, n, hplain.cons h hslash⟩, rfl⟩
  | cons m marked =>
    rw [text, List.flatMap_cons, List.append_assoc, Marked.text, List.append_assoc] at h
    by_cases hslash : m.piece = [] ∧ c = backslash
    · obtain ⟨hpiece, rfl⟩ := hslash
      have hat := tagAt?_tag m.isTag (m.backslashes + 1) (text ⟨marked, rest, n, hplain⟩)
      rw [hpiece, List.nil_append, List.append_assoc] at h
      cases h.symm.trans hat
    · exact ⟨⟨⟨c :: m.piece, m.backslashes, m.tag, m.plain.cons h hslash, m.isTag⟩ :: marked, rest, n, hplain⟩, rfl⟩

/-- Every text is cut. -/
theorem exists_cut (t : Text) : ∃ c : Cut, c.text = t := by
  induction hlength : t.length using Nat.strong_induction_on generalizing t with
  | _ length ih =>
    cases t with
    | nil => exact ⟨⟨[], [], 0, plain_nil⟩, rfl⟩
    | cons c t =>
      cases hat : tagAt? (c :: t) with
      | none =>
        obtain ⟨k, rfl⟩ := ih t.length (by rw [← hlength]; exact Nat.lt_succ_self _) t rfl
        exact k.exists_cons hat
      | some found =>
        obtain ⟨tag, rest⟩ := found
        obtain ⟨htag, hsplit⟩ := tagAt?_eq_some hat
        have hshorter : rest.length < length := by
          have hcount := congrArg List.length hsplit
          obtain ⟨d, inner, -, -, htext⟩ := htag
          simp only [htext, bracketed, List.length_append, List.length_cons] at hcount hlength
          omega
        obtain ⟨k, hk⟩ := ih rest.length hshorter rest rfl
        refine ⟨⟨⟨[], tag.backslashes, tag.text, plain_nil, htag⟩ :: k.marked, k.rest, k.backslashes, k.plain⟩, ?_⟩
        rw [hsplit, ← hk, Cut.text, List.flatMap_cons, Marked.text, Cut.text]
        simp

end ContractBuild.Screen.Markup
