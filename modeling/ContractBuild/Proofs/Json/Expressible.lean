import ContractBuild.Proofs.Json.Parsed

/-!
# Values that have a document

A value is expressible when it can be printed and read back wherever nesting is no obstacle. What is read has an
expressible value, so has every part of it, and what is put together from expressible parts is expressible again. Only
in the end it counts how deep the whole is nested (`Expressible.parse_print_append`).

* `expressible_of_parse`, `Expressible.entry`, `Expressible.item`: what is read, and its parts.
* `expressible_list`, `expressible_map`, `expressible_record`: what is put together.
* `expressible_int_of_le`: an integer is expressible when a greater one is.
-/

namespace ContractBuild.Json

/-- A value that the printer writes so that the reader gives it back, if it may be nested deep enough. -/
def Expressible (v : Value) : Prop := ∃ depth, Printable depth v

theorem Expressible.printable {v : Value} (h : Expressible v) {depth : Nat} (hv : v.depth ≤ depth) :
    Printable depth v := by
  obtain ⟨_, h⟩ := h
  exact h.of_depth_le hv

/-- **An expressible value is read back** from its document, unless it is nested too deep. -/
theorem Expressible.parse_print_append {v : Value} (h : Expressible v) (hv : v.depth ≤ maxDepth) {l : Layout}
    (hl : l.Separates) {gap : Text} (hgap : ∀ c ∈ gap, isSpace c = true) : parse (print l v ++ gap) = .ok v :=
  (h.printable hv).parse_print_append hl hgap

/-! ## What is read -/

theorem expressible_of_parse {t : Text} {v : Value} (ht : t.isScalar = true) (h : parse t = .ok v) : Expressible v :=
  ⟨maxDepth, printable_of_parse ht h⟩

theorem Expressible.entry {entries : List (Text × Value)} (h : Expressible (.map entries)) {key : Text} {v : Value}
    (hv : Value.entry? key entries = some v) : Expressible v := by
  obtain ⟨_, h⟩ := h
  cases h with
  | map keys texts values => exact ⟨_, values _ (Value.mem_of_entry? hv)⟩

theorem Expressible.item {vs : List Value} (h : Expressible (.list vs)) {v : Value} (hv : v ∈ vs) : Expressible v := by
  obtain ⟨_, h⟩ := h
  cases h with
  | list values => exact ⟨_, values v hv⟩

theorem Expressible.unpaired {t : Text} (h : Expressible (.text t)) : t.Unpaired := by
  obtain ⟨_, h⟩ := h
  cases h with
  | text h => exact h

/-! ## What is put together -/

theorem expressible_null : Expressible .null := ⟨0, .null⟩

theorem expressible_bool (b : Bool) : Expressible (.bool b) := ⟨0, .bool b⟩

theorem expressible_text {t : Text} (h : t.Unpaired) : Expressible (.text t) := ⟨0, .text h⟩

theorem expressible_int {n : Int} (h : (Text.ofNat n.natAbs).length ≤ maxDigits) : Expressible (.int n) := ⟨0, .int h⟩

theorem expressible_ofInt? {n : Option Int} (h : ∀ k ∈ n, (Text.ofNat k.natAbs).length ≤ maxDigits) :
    Expressible (.ofInt? n) := by
  cases n with
  | none => exact expressible_null
  | some n => exact expressible_int (h n rfl)

/-- An integer has no more digits than a greater one. -/
theorem expressible_int_of_le {m n : Int} (h : Expressible (.int n)) (hle : m.natAbs ≤ n.natAbs) :
    Expressible (.int m) := by
  obtain ⟨_, h⟩ := h
  cases h with
  | int digits =>
    have hlt : n.natAbs < 10 ^ maxDigits := by
      rw [Text.ofNat, Text.ofChars, List.length_map] at digits
      exact (Nat.length_toDigits_le_iff (by decide) (by decide)).1 digits
    exact expressible_int (Text.length_ofNat_le (by decide) (Nat.lt_of_le_of_lt hle hlt))

theorem expressible_list {vs : List Value} (h : ∀ v ∈ vs, Expressible v) : Expressible (.list vs) :=
  ⟨_, .list fun v hv => (h v hv).printable (Value.depth_le_depthOfItems hv)⟩

theorem expressible_map {entries : List (Text × Value)} (keys : (entries.map Prod.fst).Nodup)
    (texts : ∀ e ∈ entries, e.1.Unpaired) (values : ∀ e ∈ entries, Expressible e.2) : Expressible (.map entries) :=
  ⟨_, .map keys texts fun e he => (values e he).printable (Value.depth_le_depthOfEntries he)⟩

/-- A map with given keys, which are different and have no surrogates. -/
theorem expressible_record (keys : List Text) (hkeys : keys.Nodup ∧ ∀ key ∈ keys, key.isScalar = true)
    {entries : List (Text × Value)} (h : entries.map Prod.fst = keys)
    (values : ∀ v ∈ entries.map Prod.snd, Expressible v) : Expressible (.map entries) := by
  subst h
  refine expressible_map hkeys.1 (fun e he => ?_) fun e he => values _ (List.mem_map_of_mem he)
  exact Text.unpaired_of_isScalar (hkeys.2 _ (List.mem_map_of_mem he))

end ContractBuild.Json
