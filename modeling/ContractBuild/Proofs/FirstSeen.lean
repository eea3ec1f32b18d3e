import ContractBuild.Text.Basic
import Mathlib.Data.List.Basic
import Mathlib.Data.List.Nodup

/-!
# What is first seen comes first

`List.eraseDups` lists things in the order in which they are first seen, each once (`eraseDups_nodup`,
`eraseDups_concat`). `collect` puts together what comes under keys: the keys in the order in which they are first seen,
each with all that comes under it (`under`). What comes last is put behind the rest of its key, or it opens a new key
(`collect_concat`).

* `lookup_collect`: what is found under a key.
* `flatMap_of_nodup`: of things that are listed under different keys, those of one key.
-/

namespace ContractBuild

theorem eraseDups_nodup {α : Type} [BEq α] [LawfulBEq α] (xs : List α) : xs.eraseDups.Nodup := by
  match xs with
  | [] => exact List.nodup_nil
  | x :: xs =>
    rw [List.eraseDups_cons, List.nodup_cons]
    exact ⟨by simp [List.mem_eraseDups], eraseDups_nodup _⟩
termination_by xs.length
decreasing_by exact Nat.lt_succ_of_le (List.length_filter_le _ _)

theorem eraseDups_concat {α : Type} [BEq α] [LawfulBEq α] (xs : List α) (x : α) :
    (xs ++ [x]).eraseDups = if x ∈ xs then xs.eraseDups else xs.eraseDups ++ [x] := by
  rw [List.eraseDups_append, List.removeAll]
  by_cases h : x ∈ xs <;> simp [h, List.eraseDups_cons]

/-! ## Under keys -/

variable {α : Type} {key : Text} {xs : List (Text × List α)}

/-- All that comes under a key, in order. -/
def under (key : Text) (xs : List (Text × List α)) : List α := (xs.filter (·.1 = key)).flatMap Prod.snd

theorem under_concat (k : Text) (xs : List (Text × List α)) (key : Text) (as : List α) :
    under k (xs ++ [(key, as)]) = if key = k then under k xs ++ as else under k xs := by
  by_cases h : key = k <;> simp [under, h]

theorem under_of_not_mem (h : key ∉ xs.map Prod.fst) : under key xs = [] := by
  have hnone : xs.filter (·.1 = key) = [] := by
    rw [List.filter_eq_nil_iff]
    intro x hx hkey
    exact h (of_decide_eq_true hkey ▸ List.mem_map_of_mem hx)
  rw [under, hnone, List.flatMap_nil]

/-- What comes under keys, put together key by key. -/
def collect (xs : List (Text × List α)) : List (Text × List α) :=
  (xs.map Prod.fst).eraseDups.map fun key => (key, under key xs)

theorem map_fst_collect (xs : List (Text × List α)) : (collect xs).map Prod.fst = (xs.map Prod.fst).eraseDups := by
  rw [collect, List.map_map, Function.comp_def, List.map_id']

/-- **What comes last** is put behind the rest of its key, or it opens a new key. -/
theorem collect_concat (xs : List (Text × List α)) (key : Text) (as : List α) :
    collect (xs ++ [(key, as)]) =
      if key ∈ xs.map Prod.fst then (collect xs).map fun g => if g.1 = key then (key, g.2 ++ as) else g
      else collect xs ++ [(key, as)] := by
  rw [collect, List.map_append, List.map_singleton, eraseDups_concat]
  split
  · rw [collect, List.map_map]
    refine List.map_congr_left fun k _ => ?_
    rw [under_concat, Function.comp_apply]
    by_cases h : key = k
    · rw [if_pos h, if_pos h.symm, h]
    · rw [if_neg h, if_neg (Ne.symm h)]
  · rename_i hnew
    rw [List.map_append, List.map_singleton, under_concat, if_pos rfl, under_of_not_mem hnew, List.nil_append]
    congr 1
    refine List.map_congr_left fun k hk => ?_
    rw [under_concat, if_neg]
    rintro rfl
    exact hnew (List.mem_eraseDups.1 hk)

theorem lookup_collect (key : Text) (xs : List (Text × List α)) : ((collect xs).lookup key).getD [] = under key xs := by
  by_cases h : key ∈ xs.map Prod.fst
  · rw [collect, List.lookup_graph _ (List.mem_eraseDups.2 h), Option.getD_some]
  · have hnone : (collect xs).lookup key = none := by
      rw [List.lookup_eq_none_iff]
      intro g hg
      rw [bne_iff_ne]
      rintro rfl
      exact h (List.mem_eraseDups.1 (map_fst_collect xs ▸ List.mem_map_of_mem hg))
    rw [hnone, Option.getD_none, under_of_not_mem h]

/-- Of what is listed under different keys, one key has what is listed under it. -/
theorem flatMap_of_nodup {keys : List Text} (h : keys.Nodup) (key : Text) (as : List α) :
    keys.flatMap (fun k => if k = key then as else []) = if key ∈ keys then as else [] := by
  induction keys with
  | nil => rfl
  | cons k keys ih =>
    obtain ⟨hk, hkeys⟩ := List.nodup_cons.1 h
    rw [List.flatMap_cons, ih hkeys]
    by_cases hkey : k = key
    · subst hkey
      simp [hk]
    · simp [hkey, Ne.symm hkey]

end ContractBuild
