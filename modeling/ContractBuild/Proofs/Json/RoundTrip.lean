import ContractBuild.Proofs.Entries
import ContractBuild.Proofs.Json.Quoted
import ContractBuild.Proofs.Json.Scalar

/-!
# A value is read back from its document

Which values can be written and read back is said by `Writable`: integers have not too many digits, keys occur once, and
lists and maps are nested at most so deep. It leaves open which texts and floating point numbers there are, since what
is known about these differs from use to use.

* `ReadBack`: a value is read back behind anything and before anything that does not go on with a number.
* `items_printItems`, `bindings_printEntries`: parts that are read back make a list or a map that is.
* `Writable.readBack`, `parse_print_append`: a value that can be written is read back, in any layout.
-/

namespace ContractBuild

/-! ## Nesting -/

namespace Value

mutual

/-- How deep lists and maps are nested in a value. -/
def depth : Value → Nat
  | .list items => depthOfItems items + 1
  | .map entries => depthOfEntries entries + 1
  | .null | .bool _ | .int _ | .float _ | .text _ => 0

/-- How deep lists and maps are nested in the items of a list. -/
def depthOfItems : List Value → Nat
  | [] => 0
  | v :: rest => max v.depth (depthOfItems rest)

/-- How deep lists and maps are nested in the entries of a map. -/
def depthOfEntries : List (Text × Value) → Nat
  | [] => 0
  | (_, v) :: rest => max v.depth (depthOfEntries rest)

end

theorem depth_le_depthOfItems {v : Value} {vs : List Value} (h : v ∈ vs) : v.depth ≤ depthOfItems vs := by
  induction vs with
  | nil => cases h
  | cons w vs ih =>
    rw [depthOfItems]
    rcases List.mem_cons.1 h with rfl | h
    · exact Nat.le_max_left _ _
    · exact Nat.le_trans (ih h) (Nat.le_max_right _ _)

theorem depth_le_depthOfEntries {e : Text × Value} {entries : List (Text × Value)} (h : e ∈ entries) :
    e.2.depth ≤ depthOfEntries entries := by
  induction entries with
  | nil => cases h
  | cons first entries ih =>
    rw [depthOfEntries]
    rcases List.mem_cons.1 h with rfl | h
    · exact Nat.le_max_left _ _
    · exact Nat.le_trans (ih h) (Nat.le_max_right _ _)

end Value

namespace Json

/-! ## Space -/

theorem skipSpace_append {gap : Text} (h : ∀ c ∈ gap, isSpace c = true) (t : Text) :
    skipSpace (gap ++ t) = skipSpace t := List.dropWhile_append_of_pos h

theorem skipSpace_cons {c : CodePoint} (h : isSpace c = false) (t : Text) : skipSpace (c :: t) = c :: t := by
  rw [skipSpace, List.dropWhile_cons, h]
  rfl

theorem endsNumber_cons {c : CodePoint} (h : c.isDigit = false ∧ c ≠ '.' ∧ c ≠ 'e' ∧ c ≠ 'E') (t : Text) :
    EndsNumber (c :: t) := by
  intro d hd
  obtain rfl : c = d := Option.some.inj hd
  exact h

/-- Space does not go on with a number. -/
theorem endsNumber_append {gap : Text} (h : ∀ c ∈ gap, isSpace c = true) {t : Text} (ht : EndsNumber t) :
    EndsNumber (gap ++ t) := by
  cases gap with
  | nil => exact ht
  | cons c gap =>
    have hspace : isSpace c = true := h c List.mem_cons_self
    refine endsNumber_cons ⟨?_, ?_, ?_, ?_⟩ _
    · simp [isSpace] at hspace
      simp [CodePoint.isDigit]
      omega
    · rintro rfl; cases hspace
    · rintro rfl; cases hspace
    · rintro rfl; cases hspace

/-- A layout whose parts are separated by a comma and a colon, with nothing but space behind them. -/
structure Layout.Separates (l : Layout) : Prop where
  items : ∃ gap, l.itemSeparator = (',' :: gap : Text) ∧ ∀ c ∈ gap, isSpace c = true
  keys : ∃ gap, l.keySeparator = (':' :: gap : Text) ∧ ∀ c ∈ gap, isSpace c = true

theorem Layout.isSpace_lineStart (l : Layout) (level : Nat) : ∀ c ∈ l.lineStart level, isSpace c = true := by
  unfold lineStart
  split
  · exact List.forall_mem_nil _
  · refine List.forall_mem_cons.2 ⟨by decide, fun c hc => ?_⟩
    rw [List.eq_of_mem_replicate hc]
    decide

/-- What closes a list or map is found behind the space before it. -/
theorem Layout.closes (l : Layout) (level : Nat) {c : CodePoint}
    (h : isSpace c = false ∧ c.isDigit = false ∧ c ≠ '.' ∧ c ≠ 'e' ∧ c ≠ 'E') (rest : Text) :
    EndsNumber (l.lineStart level ++ c :: rest) ∧ skipSpace (l.lineStart level ++ c :: rest) = c :: rest := by
  refine ⟨endsNumber_append (l.isSpace_lineStart level) (endsNumber_cons h.2 rest), ?_⟩
  rw [skipSpace_append (l.isSpace_lineStart level), skipSpace_cons h.1]

/-! ## Values -/

/-- A value that can be written and read back, with at most `depth` lists and maps nested. Its texts and floating point
numbers are of the given kinds. -/
inductive Writable (text : Text → Prop) (float : Binary64 → Prop) : (depth : Nat) → Value → Prop
  | null {depth : Nat} : Writable text float depth .null
  | bool {depth : Nat} (b : Bool) : Writable text float depth (.bool b)
  | int {depth : Nat} {n : Int} (digits : (Text.ofNat n.natAbs).length ≤ maxDigits) : Writable text float depth (.int n)
  | float {depth : Nat} {x : Binary64} (h : float x) : Writable text float depth (.float x)
  | text {depth : Nat} {t : Text} (h : text t) : Writable text float depth (.text t)
  | list {depth : Nat} {vs : List Value} (values : ∀ v ∈ vs, Writable text float depth v) :
      Writable text float (depth + 1) (.list vs)
  | map {depth : Nat} {entries : List (Text × Value)} (keys : (entries.map Prod.fst).Nodup)
      (texts : ∀ e ∈ entries, text e.1) (values : ∀ e ∈ entries, Writable text float depth e.2) :
      Writable text float (depth + 1) (.map entries)

/-- Nothing but its nesting decides how deep a value must be allowed to be nested. -/
theorem Writable.of_depth_le {text : Text → Prop} {float : Binary64 → Prop} {m n : Nat} {v : Value}
    (h : Writable text float m v) (hn : v.depth ≤ n) : Writable text float n v := by
  induction h generalizing n with
  | null => exact .null
  | bool b => exact .bool b
  | int digits => exact .int digits
  | float h => exact .float h
  | text h => exact .text h
  | list values ih =>
    rw [Value.depth] at hn
    obtain ⟨k, rfl⟩ : ∃ k, n = k + 1 := ⟨n - 1, by omega⟩
    exact .list fun v hv => ih v hv (Nat.le_trans (Value.depth_le_depthOfItems hv) (Nat.le_of_succ_le_succ hn))
  | map keys texts values ih =>
    rw [Value.depth] at hn
    obtain ⟨k, rfl⟩ : ∃ k, n = k + 1 := ⟨n - 1, by omega⟩
    refine .map keys texts fun e he => ih e he ?_
    exact Nat.le_trans (Value.depth_le_depthOfEntries he) (Nat.le_of_succ_le_succ hn)

/-- A value that is read back from what a layout makes of it, wherever it stands. -/
structure ReadBack (l : Layout) (depth : Nat) (v : Value) : Prop where
  opens : ∀ level, ∃ c rest, printAt l level v = c :: rest ∧ isSpace c = false ∧ c ≠ ']'
  read : ∀ level fuel rest, (printAt l level v).length < fuel → EndsNumber rest →
    value fuel depth (printAt l level v ++ rest) = .ok (v, rest)

variable {l : Layout} {depth : Nat}

theorem readBack_of_spells {v : Value} (h : ∀ level, Spells v (printAt l level v)) : ReadBack l depth v where
  opens level := by
    obtain ⟨c, rest, heq, hspace, -, -, hbracket, -⟩ := (h level).opens
    exact ⟨c, rest, heq, hspace, hbracket⟩
  read level fuel rest hfuel hrest := by
    obtain ⟨c, t, heq, -, hquote, hlist, -, hmap⟩ := (h level).opens
    have hread := (h level).scalar rest hrest
    rw [heq, List.cons_append] at hread ⊢
    cases fuel with
    | zero => exact absurd hfuel (Nat.not_lt_zero _)
    | succ fuel =>
      rw [value.eq_def]
      simp only [hquote, hlist, hmap, if_false, hread]

theorem readBack_text {t : Text} (h : t.Unpaired) : ReadBack l depth (.text t) where
  opens level := ⟨_, _, rfl, by decide⟩
  read level fuel rest hfuel hrest := by
    have hread := stringBody_flatMap_point l.asciiOnly h rest
    have htext : printAt l level (.text t) ++ rest =
        ('"' :: (t.flatMap (point l.asciiOnly) ++ ('"' :: rest : Text)) : Text) := by
      simp [printAt, string, Text.ofString]
    cases fuel with
    | zero => exact absurd hfuel (Nat.not_lt_zero _)
    | succ fuel =>
      rw [htext, value.eq_def]
      simp only [if_true, hread]

/-- The space before a value is skipped. -/
theorem ReadBack.skipSpace_append {v : Value} (h : ReadBack l depth v) {gap : Text}
    (hgap : ∀ c ∈ gap, isSpace c = true) (level : Nat) (rest : Text) :
    skipSpace (gap ++ (printAt l level v ++ rest)) = printAt l level v ++ rest := by
  obtain ⟨c, t, heq, hc, -⟩ := h.opens level
  rw [Json.skipSpace_append hgap, heq, List.cons_append, skipSpace_cons hc]

/-! ## Lists -/

theorem items_of_close {fuel : Nat} {t t' rest : Text} {v : Value} (hv : value fuel depth t = .ok (v, t'))
    (ht : skipSpace t' = (']' :: rest : Text)) : items (fuel + 1) depth t = .ok ([v], rest) := by
  rw [items.eq_def]
  simp only [hv, ht, if_true]

theorem items_of_comma {fuel : Nat} {t t' rest : Text} {v : Value} (hv : value fuel depth t = .ok (v, t'))
    (ht : skipSpace t' = (',' :: rest : Text)) :
    items (fuel + 1) depth t = (items fuel depth (skipSpace rest)).map fun r => (v :: r.1, r.2) := by
  have hne : CodePoint.ofChar ',' ≠ ']' := by decide
  rw [items.eq_def]
  simp only [hv, ht, hne, if_true, if_false]

theorem printItems_cons (l : Layout) (level : Nat) (v : Value) (vs : List Value) (tail : Text) :
    printItems l level (v :: vs) ++ tail = l.lineStart level ++ (printAt l level v ++
      ((if vs.isEmpty then [] else l.itemSeparator) ++ (printItems l level vs ++ tail))) := by
  simp [printItems]

/-- **Items that are read back make a list that is.** -/
theorem items_printItems (hl : l.Separates) {vs : List Value} (hne : vs ≠ []) (hvs : ∀ v ∈ vs, ReadBack l depth v)
    {level fuel : Nat} {tail rest : Text} (hends : EndsNumber tail) (hclose : skipSpace tail = (']' :: rest : Text))
    (hfuel : (printItems l level vs).length + 1 < fuel) :
    items fuel depth (skipSpace (printItems l level vs ++ tail)) = .ok (vs, rest) := by
  obtain ⟨gap, hcomma, hgap⟩ := hl.items
  induction vs generalizing fuel with
  | nil => exact absurd rfl hne
  | cons v vs ih =>
    obtain ⟨hv, hvs⟩ := List.forall_mem_cons.1 hvs
    obtain _ | fuel := fuel
    · exact absurd hfuel (Nat.not_lt_zero _)
    have hpos : 0 < (printAt l level v).length := by
      obtain ⟨c, t, heq, -⟩ := hv.opens level
      rw [heq]
      exact Nat.succ_pos _
    have hlength : (printAt l level v).length < fuel ∧ (printItems l level vs).length + 1 < fuel := by
      simp [printItems] at hfuel
      omega
    have hvalue {u : Text} (hu : EndsNumber u) : value fuel depth (printAt l level v ++ u) = .ok (v, u) :=
      hv.read level fuel u hlength.1 hu
    rw [printItems_cons, hv.skipSpace_append (l.isSpace_lineStart level)]
    cases vs with
    | nil => exact items_of_close (hvalue hends) hclose
    | cons w vs =>
      have hrest := ih (List.cons_ne_nil w vs) hvs hlength.2
      rw [List.isEmpty_cons, if_neg Bool.false_ne_true, hcomma, List.cons_append,
        items_of_comma (hvalue (endsNumber_cons (by decide) _)) (skipSpace_cons (by decide) _), skipSpace_append hgap,
        hrest]
      rfl

/-- Items do not start with what closes a list. -/
theorem exists_skipSpace_printItems {v : Value} (hv : ReadBack l depth v) (vs : List Value) (level : Nat)
    (tail : Text) : ∃ c rest, skipSpace (printItems l level (v :: vs) ++ tail) = c :: rest ∧ c ≠ ']' := by
  obtain ⟨c, t, heq, -, hc⟩ := hv.opens level
  rw [printItems_cons, hv.skipSpace_append (l.isSpace_lineStart level), heq]
  exact ⟨c, _, rfl, hc⟩

theorem value_of_no_items (fuel : Nat) (rest : Text) :
    value (fuel + 1) (depth + 1) ('[' :: ']' :: rest) = .ok (.list [], rest) := by
  have hquote : CodePoint.ofChar '[' ≠ '"' := by decide
  have hskip : skipSpace (']' :: rest) = (']' :: rest : Text) := skipSpace_cons (by decide) rest
  rw [value.eq_def]
  simp only [hquote, hskip, if_true, if_false]

theorem value_of_items {fuel : Nat} {t rest : Text} {c : CodePoint} (ht : skipSpace t = c :: rest) (hc : c ≠ ']') :
    value (fuel + 1) (depth + 1) ('[' :: t) = (items fuel depth (c :: rest)).map fun r => (.list r.1, r.2) := by
  have hquote : CodePoint.ofChar '[' ≠ '"' := by decide
  rw [value.eq_def]
  simp only [hquote, ht, hc, if_true, if_false]

theorem readBack_list (hl : l.Separates) {vs : List Value} (hvs : ∀ v ∈ vs, ReadBack l depth v) :
    ReadBack l (depth + 1) (.list vs) where
  opens level := by
    cases vs with
    | nil => exact ⟨_, _, rfl, by decide⟩
    | cons v vs => exact ⟨_, _, rfl, by decide⟩
  read level fuel rest hfuel hrest := by
    obtain _ | fuel := fuel
    · exact absurd hfuel (Nat.not_lt_zero _)
    cases vs with
    | nil => exact value_of_no_items fuel rest
    | cons v vs =>
      have htext : printAt l level (.list (v :: vs)) ++ rest =
          ('[' :: (printItems l (level + 1) (v :: vs) ++ (l.lineStart level ++ (']' :: rest : Text))) : Text) := by
        simp [printAt, Text.ofString]
      obtain ⟨hends, hclose⟩ := l.closes level (c := ']') (by decide) rest
      have hlength : (printItems l (level + 1) (v :: vs)).length + 1 < fuel := by
        simp [printAt, Text.ofString] at hfuel
        omega
      have hread := items_printItems hl (List.cons_ne_nil v vs) hvs hends hclose hlength
      obtain ⟨c, t, hskip, hc⟩ := exists_skipSpace_printItems (hvs v List.mem_cons_self) vs (level + 1)
        (l.lineStart level ++ (']' :: rest : Text))
      rw [htext, value_of_items hskip hc, ← hskip, hread]
      rfl

/-! ## Maps -/

section

variable {fuel : Nat} {t t' u u' rest key : Text} {v : Value}

theorem bindings_of_close (hkey : stringBody t = some (key, t')) (hcolon : skipSpace t' = (':' :: u : Text))
    (hv : value fuel depth (skipSpace u) = .ok (v, u')) (hclose : skipSpace u' = ('\x7d' :: rest : Text)) :
    bindings (fuel + 1) depth ('"' :: t) = .ok ([(key, v)], rest) := by
  rw [bindings.eq_def]
  simp only [hkey, hcolon, hv, hclose, if_true]

theorem bindings_of_comma (hkey : stringBody t = some (key, t')) (hcolon : skipSpace t' = (':' :: u : Text))
    (hv : value fuel depth (skipSpace u) = .ok (v, u')) (hcomma : skipSpace u' = (',' :: rest : Text)) :
    bindings (fuel + 1) depth ('"' :: t) =
      (bindings fuel depth (skipSpace rest)).map fun r => ((key, v) :: r.1, r.2) := by
  have hne : CodePoint.ofChar ',' ≠ '\x7d' := by decide
  rw [bindings.eq_def]
  simp only [hkey, hcolon, hv, hcomma, hne, if_true, if_false]

theorem value_of_no_bindings (fuel : Nat) (rest : Text) :
    value (fuel + 1) (depth + 1) ('\x7b' :: '\x7d' :: rest) = .ok (.map [], rest) := by
  have hquote : CodePoint.ofChar '\x7b' ≠ '"' := by decide
  have hlist : CodePoint.ofChar '\x7b' ≠ '[' := by decide
  have hskip : skipSpace ('\x7d' :: rest) = ('\x7d' :: rest : Text) := skipSpace_cons (by decide) rest
  rw [value.eq_def]
  simp only [hquote, hlist, hskip, if_true, if_false]

theorem value_of_bindings (ht : skipSpace t = ('"' :: rest : Text)) :
    value (fuel + 1) (depth + 1) ('\x7b' :: t) =
      (bindings fuel depth ('"' :: rest)).map fun r => (.map (Value.ofBindings r.1), r.2) := by
  have hquote : CodePoint.ofChar '\x7b' ≠ '"' := by decide
  have hlist : CodePoint.ofChar '\x7b' ≠ '[' := by decide
  have hclose : CodePoint.ofChar '"' ≠ '\x7d' := by decide
  rw [value.eq_def]
  simp only [hquote, hlist, hclose, ht, if_true, if_false]

end

/-- What is written of an entry, up to its value. -/
def afterQuote (l : Layout) (level : Nat) (e : Text × Value) (rest : Text) : Text :=
  e.1.flatMap (point l.asciiOnly) ++ ('"' :: (l.keySeparator ++ (printAt l level e.2 ++ rest)) : Text)

theorem printEntries_cons (l : Layout) (level : Nat) (e : Text × Value) (entries : List (Text × Value)) (tail : Text) :
    printEntries l level (e :: entries) ++ tail = l.lineStart level ++ ('"' :: afterQuote l level e
      ((if entries.isEmpty then [] else l.itemSeparator) ++ (printEntries l level entries ++ tail)) : Text) := by
  simp [printEntries, afterQuote, string, Text.ofString]

/-- Entries start with a quote. -/
theorem exists_skipSpace_printEntries (l : Layout) (level : Nat) (e : Text × Value) (entries : List (Text × Value))
    (tail : Text) : ∃ t, skipSpace (printEntries l level (e :: entries) ++ tail) = ('"' :: t : Text) := by
  rw [printEntries_cons, skipSpace_append (l.isSpace_lineStart level), skipSpace_cons (by decide)]
  exact ⟨_, rfl⟩

/-- **Entries that are read back make a map that is.** -/
theorem bindings_printEntries (hl : l.Separates) {entries : List (Text × Value)} (hne : entries ≠ [])
    (hkeys : ∀ e ∈ entries, e.1.Unpaired) (hvs : ∀ e ∈ entries, ReadBack l depth e.2) {level fuel : Nat}
    {tail rest : Text} (hends : EndsNumber tail) (hclose : skipSpace tail = ('\x7d' :: rest : Text))
    (hfuel : (printEntries l level entries).length + 1 < fuel) :
    bindings fuel depth (skipSpace (printEntries l level entries ++ tail)) = .ok (entries, rest) := by
  obtain ⟨gap, hcomma, hgap⟩ := hl.items
  obtain ⟨keyGap, hcolon, hkeyGap⟩ := hl.keys
  induction entries generalizing fuel with
  | nil => exact absurd rfl hne
  | cons e entries ih =>
    obtain ⟨hv, hvs⟩ := List.forall_mem_cons.1 hvs
    obtain ⟨hkey, hkeys⟩ := List.forall_mem_cons.1 hkeys
    obtain _ | fuel := fuel
    · exact absurd hfuel (Nat.not_lt_zero _)
    have hquote (t : Text) : skipSpace (l.lineStart level ++ ('"' :: t : Text)) = ('"' :: t : Text) := by
      rw [skipSpace_append (l.isSpace_lineStart level), skipSpace_cons (by decide)]
    have hread (u : Text) : stringBody (afterQuote l level e u) =
        some (e.1, l.keySeparator ++ (printAt l level e.2 ++ u)) := stringBody_flatMap_point l.asciiOnly hkey _
    have hskip (u : Text) : skipSpace (l.keySeparator ++ (printAt l level e.2 ++ u)) =
        (':' :: (keyGap ++ (printAt l level e.2 ++ u)) : Text) := by
      rw [hcolon, List.cons_append, skipSpace_cons (by decide)]
    have hlength : (printAt l level e.2).length < fuel ∧ (printEntries l level entries).length + 1 < fuel := by
      simp [printEntries, string, hcolon] at hfuel
      omega
    have hvalue {u : Text} (hu : EndsNumber u) :
        value fuel depth (skipSpace (keyGap ++ (printAt l level e.2 ++ u))) = .ok (e.2, u) := by
      rw [hv.skipSpace_append hkeyGap level]
      exact hv.read level fuel u hlength.1 hu
    rw [printEntries_cons, hquote]
    cases entries with
    | nil => exact bindings_of_close (hread tail) (hskip tail) (hvalue hends) hclose
    | cons e' entries =>
      have hrest := ih (List.cons_ne_nil e' entries) hkeys hvs hlength.2
      rw [List.isEmpty_cons, if_neg Bool.false_ne_true, hcomma, List.cons_append,
        bindings_of_comma (hread _) (hskip _) (hvalue (endsNumber_cons (by decide) _)) (skipSpace_cons (by decide) _),
        skipSpace_append hgap, hrest]
      rfl

theorem readBack_map (hl : l.Separates) {entries : List (Text × Value)} (hnodup : (entries.map Prod.fst).Nodup)
    (hkeys : ∀ e ∈ entries, e.1.Unpaired) (hvs : ∀ e ∈ entries, ReadBack l depth e.2) :
    ReadBack l (depth + 1) (.map entries) where
  opens level := by
    cases entries with
    | nil => exact ⟨_, _, rfl, by decide⟩
    | cons e entries => exact ⟨_, _, rfl, by decide⟩
  read level fuel rest hfuel hrest := by
    obtain _ | fuel := fuel
    · exact absurd hfuel (Nat.not_lt_zero _)
    cases entries with
    | nil => exact value_of_no_bindings fuel rest
    | cons e entries =>
      have htext : printAt l level (.map (e :: entries)) ++ rest =
          ('\x7b' :: (printEntries l (level + 1) (e :: entries) ++ (l.lineStart level ++ ('\x7d' :: rest : Text))) :
            Text) := by
        simp [printAt, Text.ofString]
      obtain ⟨hends, hclose⟩ := l.closes level (c := '\x7d') (by decide) rest
      have hlength : (printEntries l (level + 1) (e :: entries)).length + 1 < fuel := by
        simp [printAt, Text.ofString] at hfuel
        omega
      have hread := bindings_printEntries hl (List.cons_ne_nil e entries) hkeys hvs hends hclose hlength
      obtain ⟨t, hquote⟩ := exists_skipSpace_printEntries l (level + 1) e entries
        (l.lineStart level ++ ('\x7d' :: rest : Text))
      rw [htext, value_of_bindings hquote, ← hquote, hread]
      simp [Except.map, Value.ofBindings_of_nodup hnodup]

/-! ## All values -/

section

variable {text : Text → Prop} {float : Binary64 → Prop}

/-- **A value that can be written is read back**, when its texts have no pairs of surrogates and its floating point
numbers are spelled so that they are read. -/
theorem Writable.readBack {v : Value} (h : Writable text float depth v) (hl : l.Separates)
    (htext : ∀ t, text t → t.Unpaired) (hfloat : ∀ x, float x → Spells (.float x) (x.render numberNames)) :
    ReadBack l depth v := by
  induction h with
  | null => exact readBack_of_spells fun _ => spells_null
  | bool b => exact readBack_of_spells fun _ => spells_bool b
  | int digits => exact readBack_of_spells fun _ => spells_int digits
  | float h => exact readBack_of_spells fun _ => hfloat _ h
  | text h => exact readBack_text (htext _ h)
  | list values ih => exact readBack_list hl ih
  | map keys texts values ih => exact readBack_map hl keys (fun e he => htext _ (texts e he)) ih

/-- **A document is read back**, also with space behind it. -/
theorem parse_print_append {v : Value} (h : Writable text float maxDepth v) (hl : l.Separates)
    (htext : ∀ t, text t → t.Unpaired) (hfloat : ∀ x, float x → Spells (.float x) (x.render numberNames))
    {gap : Text} (hgap : ∀ c ∈ gap, isSpace c = true) : parse (print l v ++ gap) = .ok v := by
  have hback := h.readBack hl htext hfloat
  have hskip : skipSpace (print l v ++ gap) = print l v ++ gap := by
    obtain ⟨c, t, heq, hc, -⟩ := hback.opens 0
    rw [print, heq, List.cons_append, skipSpace_cons hc]
  have hends : EndsNumber gap := by
    rw [← List.append_nil gap]
    exact endsNumber_append hgap nofun
  have hend : skipSpace gap = [] := by
    rw [← List.append_nil gap, skipSpace_append hgap]
    rfl
  have hlength : (print l v).length < (print l v ++ gap).length + 1 := by
    rw [List.length_append]
    omega
  have hread : value ((print l v ++ gap).length + 1) maxDepth (print l v ++ gap) = .ok (v, gap) :=
    hback.read 0 _ gap hlength hends
  rw [parse, hskip, hread]
  dsimp only
  rw [hend]
  rfl

theorem parse_print {v : Value} (h : Writable text float maxDepth v) (hl : l.Separates)
    (htext : ∀ t, text t → t.Unpaired) (hfloat : ∀ x, float x → Spells (.float x) (x.render numberNames)) :
    parse (print l v) = .ok v := by
  have hread := parse_print_append h hl htext hfloat (List.forall_mem_nil _)
  rwa [List.append_nil] at hread

end

end Json

end ContractBuild
