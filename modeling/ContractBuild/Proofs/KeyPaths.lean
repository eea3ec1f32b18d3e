import ContractBuild.Proofs.SettingsFile

/-!
# Paths of keys

A list of keys leads through maps to a value (`Value.at?`). A value is well keyed when every map that keys lead to has
different keys (`Value.WellKeyed`), and so is every document that can be read (`Yaml.wellKeyed_parse`).
-/

namespace ContractBuild

namespace Value

/-- The value that keys lead to, one map after another. -/
def at? : List Text → Value → Option Value
  | [], v => some v
  | key :: path, v => (v.field? key).bind (at? path)

/-- A value is a map. -/
def IsMap (v : Value) : Prop := ∃ entries, v = .map entries

/-- Every map that keys lead to has different keys. -/
def WellKeyed (v : Value) : Prop := ∀ path entries, v.at? path = some (.map entries) → (entries.map Prod.fst).Nodup

theorem isMap_map (entries : List (Text × Value)) : (Value.map entries).IsMap := ⟨entries, rfl⟩

theorem not_isMap_text (t : Text) : ¬ (Value.text t).IsMap := by
  rintro ⟨_, h⟩
  cases h

theorem at?_cons_map (key : Text) (path : List Text) (entries : List (Text × Value)) :
    (Value.map entries).at? (key :: path) = (Value.entry? key entries).bind (at? path) := rfl

theorem at?_append (start path : List Text) (v : Value) : v.at? (start ++ path) = (v.at? start).bind (at? path) := by
  induction start generalizing v with
  | nil => rfl
  | cons key start ih =>
    rw [List.cons_append, at?, at?, Option.bind_assoc]
    exact congrArg _ (funext ih)

/-- Keys lead on from maps only. -/
theorem isMap_of_at?_cons {key : Text} {path : List Text} {v w : Value} (h : v.at? (key :: path) = some w) : v.IsMap := by
  cases v with
  | map entries => exact isMap_map entries
  | null | bool _ | int _ | float _ | text _ | list _ => cases h

theorem at?_put (key other : Text) (path : List Text) (v : Value) (entries : List (Text × Value)) :
    (Value.map (put key v entries)).at? (other :: path) =
      if other = key then v.at? path else (Value.map entries).at? (other :: path) := by
  rw [at?_cons_map, at?_cons_map, entry?_put]
  split <;> rfl

theorem wellKeyed_of_not_isMap {v : Value} (h : ¬ v.IsMap) : v.WellKeyed := by
  intro path entries hat
  cases path with
  | nil => exact absurd ⟨entries, Option.some.inj hat⟩ h
  | cons key path => exact absurd (isMap_of_at?_cons hat) h

/-- A map is well keyed when its keys differ and its values are well keyed. -/
theorem wellKeyed_map {entries : List (Text × Value)} (h : (entries.map Prod.fst).Nodup)
    (hvalues : ∀ e ∈ entries, e.2.WellKeyed) : (Value.map entries).WellKeyed := by
  intro path inner hat
  cases path with
  | nil =>
    obtain rfl := Value.map.inj (Option.some.inj hat)
    exact h
  | cons key path =>
    rw [at?_cons_map] at hat
    obtain ⟨v, hv, hat⟩ := Option.bind_eq_some_iff.1 hat
    exact hvalues (key, v) (Value.mem_of_entry? hv) path inner hat

theorem wellKeyed_empty : (Value.map []).WellKeyed := by
  refine wellKeyed_map List.nodup_nil fun e he => ?_
  cases he

theorem WellKeyed.nodup {entries : List (Text × Value)} (h : (Value.map entries).WellKeyed) :
    (entries.map Prod.fst).Nodup := h [] entries rfl

theorem WellKeyed.of_entry {entries : List (Text × Value)} (h : (Value.map entries).WellKeyed) {key : Text} {v : Value}
    (hv : entry? key entries = some v) : v.WellKeyed := by
  intro path inner hat
  exact h (key :: path) inner (by rw [at?_cons_map, hv]; exact hat)

theorem WellKeyed.of_mem {entries : List (Text × Value)} (h : (Value.map entries).WellKeyed) {e : Text × Value}
    (he : e ∈ entries) : e.2.WellKeyed := h.of_entry (entry?_of_mem h.nodup he)

end Value

/-! ## Documents -/

namespace Yaml.Node

/-- The values of entries are well keyed. -/
def WellKeyedEntries (entries : List (Text × Value)) : Prop := ∀ e ∈ entries, e.2.WellKeyed

theorem WellKeyedEntries.append {a b : List (Text × Value)} (ha : WellKeyedEntries a) (hb : WellKeyedEntries b) :
    WellKeyedEntries (a ++ b) := fun e he => (List.mem_append.1 he).elim (ha e) (hb e)

theorem WellKeyedEntries.ofBindings {bindings : List (Text × Value)} (h : WellKeyedEntries bindings) :
    (Value.map (Value.ofBindings bindings)).WellKeyed :=
  Value.wellKeyed_map (Value.nodup_ofBindings bindings) fun e he => h e (Value.mem_ofBindings he)

/-- A sequence of two steps that succeeds. -/
theorem bind_eq_ok {α β : Type} {x : Except Error α} {f : α → Except Error β} {b : β} (h : (x >>= f) = .ok b) :
    ∃ a, x = .ok a ∧ f a = .ok b := by
  cases x with
  | error e => cases h
  | ok a => exact ⟨a, rfl, h⟩

mutual

theorem wellKeyed_toValue : ∀ (n : Node) {v : Value}, n.toValue = .ok v → v.WellKeyed
  | .scalar tag t, v, h => by
    refine Value.wellKeyed_of_not_isMap ?_
    rintro ⟨entries, rfl⟩
    rw [toValue] at h
    exact scalarValue_ne_map h
  | .list tag items, v, h => by
    rw [toValue] at h
    split at h
    · cases hitems : itemValues items with
      | error e => rw [hitems] at h; cases h
      | ok vs =>
        rw [hitems] at h
        cases h
        exact Value.wellKeyed_of_not_isMap nofun
    · cases h
  | .map tag pairs, v, h => by
    rw [toValue] at h
    split at h
    · cases hpairs : bindings pairs with
      | error e => rw [hpairs] at h; cases h
      | ok b =>
        rw [hpairs] at h
        cases h
        exact (wellKeyed_bindings pairs hpairs).ofBindings
    · cases h

theorem wellKeyed_bindings : ∀ (pairs : List (Node × Node)) {b : Bindings}, bindings pairs = .ok b →
    WellKeyedEntries b.all
  | [], b, h => by
    rw [bindings] at h
    cases h
    exact nofun
  | (key, value) :: rest, b, h => by
    rw [bindings] at h
    split at h
    · obtain ⟨merged, hmerged, h⟩ := bind_eq_ok h
      obtain ⟨others, hothers, h⟩ := bind_eq_ok h
      cases h
      have hrest := (wellKeyed_mergedEntries value hmerged).append (wellKeyed_bindings rest hothers)
      rwa [Bindings.all, ← List.append_assoc] at hrest
    · obtain ⟨k, -, h⟩ := bind_eq_ok h
      obtain ⟨v, hv, h⟩ := bind_eq_ok h
      obtain ⟨others, hothers, h⟩ := bind_eq_ok h
      cases h
      intro e he
      rcases List.mem_append.1 he with he | he
      · exact wellKeyed_bindings rest hothers e (List.mem_append_left _ he)
      · rcases List.mem_cons.1 he with rfl | he
        · exact wellKeyed_toValue value hv
        · exact wellKeyed_bindings rest hothers e (List.mem_append_right _ he)

theorem wellKeyed_mergedEntries : ∀ (n : Node) {entries : List (Text × Value)}, mergedEntries n = .ok entries →
    WellKeyedEntries entries
  | .scalar _ _, _, h => by rw [mergedEntries] at h; cases h
  | .map _ pairs, entries, h => by
    rw [mergedEntries] at h
    cases hpairs : bindings pairs with
    | error e => rw [hpairs] at h; cases h
    | ok b =>
      rw [hpairs] at h
      cases h
      exact wellKeyed_bindings pairs hpairs
  | .list _ items, entries, h => by
    rw [mergedEntries] at h
    exact wellKeyed_mergedItems items h

theorem wellKeyed_mergedItems : ∀ (ns : List Node) {entries : List (Text × Value)}, mergedItems ns = .ok entries →
    WellKeyedEntries entries
  | [], _, h => by
    rw [mergedItems] at h
    cases h
    exact nofun
  | n :: rest, _, h => by
    rw [mergedItems] at h
    obtain ⟨first, hfirst, h⟩ := bind_eq_ok h
    obtain ⟨others, hothers, h⟩ := bind_eq_ok h
    cases h
    exact (wellKeyed_mergedItems rest hothers).append (wellKeyed_mergedMap n hfirst)

theorem wellKeyed_mergedMap : ∀ (n : Node) {entries : List (Text × Value)}, mergedMap n = .ok entries →
    WellKeyedEntries entries
  | .scalar _ _, _, h => nomatch h
  | .list _ _, _, h => nomatch h
  | .map _ pairs, entries, h => by
    rw [mergedMap] at h
    cases hpairs : bindings pairs with
    | error e => rw [hpairs] at h; cases h
    | ok b =>
      rw [hpairs] at h
      cases h
      exact wellKeyed_bindings pairs hpairs

end

end Yaml.Node

/-- **A document** that can be read is well keyed. -/
theorem Yaml.wellKeyed_parse {t : Text} {v : Value} (h : parse t = .ok v) : v.WellKeyed := by
  unfold parse at h
  obtain ⟨ts, -, h⟩ := Node.bind_eq_ok h
  obtain ⟨node?, -, h⟩ := Node.bind_eq_ok h
  cases node? with
  | none =>
    cases h
    exact Value.wellKeyed_of_not_isMap nofun
  | some node => exact node.wellKeyed_toValue h

end ContractBuild
