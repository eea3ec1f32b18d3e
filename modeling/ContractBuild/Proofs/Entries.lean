import ContractBuild.Value.Basic
import Mathlib.Data.List.Induction
import Mathlib.Data.List.Nodup

/-!
# Entries with different keys

The entries of a map are made by bindings, of which the last one with a key decides. They have different keys
(`nodup_ofBindings`), and bindings that do so are the entries that they make (`ofBindings_of_nodup`). Among them an entry is
found by its key.
-/

namespace ContractBuild.Value

/-! ## Bindings -/

theorem nodup_put {entries : List (Text × Value)} (h : (entries.map Prod.fst).Nodup) (key : Text) (v : Value) :
    ((put key v entries).map Prod.fst).Nodup := by
  rw [keys_put]
  split
  · exact h
  · rename_i hnew
    exact List.nodup_append.2 ⟨h, List.nodup_singleton key, by
      rintro k hk _ hkey rfl
      rw [List.mem_singleton.1 hkey] at hk
      exact hnew hk⟩

/-- Entries that bindings make have different keys. -/
theorem nodup_ofBindings (bindings : List (Text × Value)) : ((ofBindings bindings).map Prod.fst).Nodup :=
  List.foldlRecOn (motive := fun entries : List (Text × Value) => (entries.map Prod.fst).Nodup) bindings _ List.nodup_nil
    fun _ h b _ => nodup_put h b.1 b.2

/-- A new key is put at the end. -/
theorem put_of_not_mem {key : Text} {v : Value} {entries : List (Text × Value)} (h : key ∉ entries.map Prod.fst) :
    put key v entries = entries ++ [(key, v)] := by
  induction entries with
  | nil => rfl
  | cons e entries ih =>
    rw [List.map_cons, List.mem_cons, not_or] at h
    rw [put, if_neg (Ne.symm h.1), ih h.2, List.cons_append]

/-- Bindings of different keys are the entries that they make. -/
theorem ofBindings_of_nodup {entries : List (Text × Value)} (h : (entries.map Prod.fst).Nodup) :
    ofBindings entries = entries := by
  have hfold (done rest : List (Text × Value)) (h : ((done ++ rest).map Prod.fst).Nodup) :
      rest.foldl (fun entries b => put b.1 b.2 entries) done = done ++ rest := by
    induction rest generalizing done with
    | nil => exact (List.append_nil done).symm
    | cons e rest ih =>
      have hsplit : done ++ e :: rest = (done ++ [e]) ++ rest := by simp
      have hnew : e.1 ∉ done.map Prod.fst := by
        rw [List.map_append, List.map_cons] at h
        intro hmem
        exact (List.nodup_append.1 h).2.2 _ hmem _ List.mem_cons_self rfl
      rw [List.foldl_cons, put_of_not_mem hnew, hsplit]
      exact ih (done ++ [e]) (by rwa [← hsplit])
  exact hfold [] entries h

/-- What is put among entries, or was there. -/
theorem mem_put {key : Text} {v : Value} {entries : List (Text × Value)} {e : Text × Value}
    (h : e ∈ put key v entries) : e = (key, v) ∨ e ∈ entries := by
  induction entries with
  | nil => exact .inl (List.mem_singleton.1 h)
  | cons d entries ih =>
    rw [put] at h
    split at h
    · rename_i hkey
      rcases List.mem_cons.1 h with rfl | h
      · exact .inl (by rw [hkey])
      · exact .inr (List.mem_cons_of_mem d h)
    · rcases List.mem_cons.1 h with rfl | h
      · exact .inr List.mem_cons_self
      · exact (ih h).imp_right (List.mem_cons_of_mem d)

/-- Bindings make no entry but their own. -/
theorem mem_ofBindings {bindings : List (Text × Value)} {e : Text × Value} (h : e ∈ ofBindings bindings) :
    e ∈ bindings := by
  induction bindings using List.reverseRecOn with
  | nil => cases h
  | append_singleton bindings b ih =>
    rw [ofBindings, List.foldl_concat] at h
    rcases mem_put h with rfl | h
    · exact List.mem_append_right bindings List.mem_cons_self
    · exact List.mem_append_left [b] (ih h)

/-! ## Entries by their keys -/

theorem entry?_cons_self (key : Text) (v : Value) (rest : List (Text × Value)) :
    entry? key ((key, v) :: rest) = some v := by
  rw [Value.entry?, List.lookup_cons, beq_self_eq_true]

theorem entry?_cons_of_ne {key k : Text} (h : key ≠ k) (v : Value) (rest : List (Text × Value)) :
    entry? key ((k, v) :: rest) = entry? key rest := by
  rw [Value.entry?, List.lookup_cons, beq_false_of_ne h]
  rfl

theorem entry?_put (key other : Text) (v : Value) (entries : List (Text × Value)) :
    entry? other (put key v entries) = if other = key then some v else entry? other entries :=
  lookup_put key other v entries

theorem entry?_eq_none {key : Text} {entries : List (Text × Value)} (h : key ∉ entries.map Prod.fst) :
    entry? key entries = none := by
  refine List.lookup_eq_none_iff.2 fun e he => bne_iff_ne.2 ?_
  rintro rfl
  exact h (List.mem_map_of_mem he)

/-- Where keys differ, a filter decides about the entry of a key. -/
theorem entry?_filter {entries : List (Text × Value)} (h : (entries.map Prod.fst).Nodup) (p : Text × Value → Bool)
    (key : Text) : entry? key (entries.filter p) = (Value.entry? key entries).filter fun v => p (key, v) := by
  induction entries with
  | nil => rfl
  | cons e rest ih =>
    obtain ⟨k, v⟩ := e
    rw [List.map_cons, List.nodup_cons] at h
    by_cases hkey : key = k
    · subst hkey
      rw [entry?_cons_self, Option.filter_some]
      cases hp : p (key, v) with
      | true => rw [List.filter_cons_of_pos hp, entry?_cons_self, if_pos rfl]
      | false =>
        rw [List.filter_cons_of_neg (by rw [hp]; exact Bool.false_ne_true), ih h.2, entry?_eq_none h.1]
        rfl
    · rw [entry?_cons_of_ne hkey, ← ih h.2]
      cases hp : p (k, v) with
      | true => rw [List.filter_cons_of_pos hp, entry?_cons_of_ne hkey]
      | false => rw [List.filter_cons_of_neg (by rw [hp]; exact Bool.false_ne_true)]

theorem mem_of_entry? {key : Text} {v : Value} {entries : List (Text × Value)} (h : entry? key entries = some v) :
    (key, v) ∈ entries := by
  obtain ⟨before, after, rfl, -⟩ := List.lookup_eq_some_iff.1 h
  exact List.mem_append_right before List.mem_cons_self

/-- Where keys differ, an entry is found by its key. -/
theorem entry?_of_mem {entries : List (Text × Value)} (h : (entries.map Prod.fst).Nodup) {e : Text × Value}
    (he : e ∈ entries) : entry? e.1 entries = some e.2 := by
  induction entries with
  | nil => cases he
  | cons d rest ih =>
    rw [List.map_cons, List.nodup_cons] at h
    rcases List.mem_cons.1 he with rfl | he
    · exact entry?_cons_self e.1 e.2 rest
    · have hne : e.1 ≠ d.1 := by
        intro heq
        exact h.1 (heq ▸ List.mem_map_of_mem he)
      rw [← ih h.2 he]
      exact entry?_cons_of_ne hne d.2 rest

end ContractBuild.Value
