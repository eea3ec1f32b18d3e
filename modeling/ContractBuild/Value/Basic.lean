import ContractBuild.Binary64.Basic
import ContractBuild.Text.Basic

/-!
# Values

Messages and settings are values: null, booleans, integers of any size, floating point numbers, texts, lists, and maps
from texts to values. A map keeps its keys in the order in which they first came. `Value.put` changes the value of a key
where it stands and appends a new key at the end, so a map built with it has every key once (`Value.keys_put`).
-/

namespace ContractBuild

/-- A value of a message or a setting. -/
inductive Value where
  | null
  | bool (b : Bool)
  | int (n : Int)
  | float (x : Binary64)
  | text (t : Text)
  | list (items : List Value)
  | map (entries : List (Text × Value))
deriving Inhabited

namespace Value

instance : Coe Text Value := ⟨.text⟩

/-- The entries with `key` bound to `v`. -/
def put (key : Text) (v : Value) : List (Text × Value) → List (Text × Value)
  | [] => [(key, v)]
  | (k, w) :: rest => if k = key then (k, v) :: rest else (k, w) :: put key v rest

/-- The entries that a list of bindings makes, the last binding of a key deciding. -/
def ofBindings (bindings : List (Text × Value)) : List (Text × Value) :=
  bindings.foldl (fun entries b => put b.1 b.2 entries) []

/-- The value of a key among entries. -/
def entry? (key : Text) (entries : List (Text × Value)) : Option Value := entries.lookup key

/-- The value of a key, when the value is a map that has it. -/
def field? (key : Text) : Value → Option Value
  | .map entries => entry? key entries
  | _ => none

/-- Whether a value counts as true: null, false, zero and what is empty do not. -/
def isTruthy : Value → Bool
  | .null => false
  | .bool b => b
  | .int n => n ≠ 0
  | .float x => !x.isZero
  | .text t => !t.isEmpty
  | .list items => !items.isEmpty
  | .map entries => !entries.isEmpty

/-- The text of a value that is one. -/
def text? : Value → Option Text
  | .text t => some t
  | _ => none

/-- The entries of a value that is a map. -/
def entries? : Value → Option (List (Text × Value))
  | .map entries => some entries
  | _ => none

/-- An optional text, null when there is none. -/
def ofText? : Option Text → Value
  | some t => .text t
  | none => .null

/-- An optional integer, null when there is none. -/
def ofInt? : Option Int → Value
  | some n => .int n
  | none => .null

theorem keys_put (key : Text) (v : Value) (entries : List (Text × Value)) :
    (put key v entries).map Prod.fst =
      if key ∈ entries.map Prod.fst then entries.map Prod.fst else entries.map Prod.fst ++ [key] := by
  induction entries with
  | nil => simp [put]
  | cons e rest ih =>
    obtain ⟨k, w⟩ := e
    by_cases h : k = key
    · simp [put, h]
    · have h' : ¬ key = k := fun e => h e.symm
      simp only [put, h, if_false, List.map_cons, ih, List.mem_cons, h', false_or]
      split <;> rfl

theorem lookup_put (key other : Text) (v : Value) (entries : List (Text × Value)) :
    (put key v entries).lookup other = if other = key then some v else entries.lookup other := by
  induction entries with
  | nil => by_cases h : other = key <;> simp [put, List.lookup_cons, h, beq_false_of_ne]
  | cons e rest ih =>
    obtain ⟨k, w⟩ := e
    by_cases h : k = key
    · subst h
      by_cases ho : other = k <;> simp [put, List.lookup_cons, ho, beq_false_of_ne]
    · by_cases ho : other = k
      · subst ho
        simp [put, h]
      · have ho' : (other == k) = false := beq_false_of_ne ho
        simp [put, h, List.lookup_cons, ho', ih]

end Value

end ContractBuild
