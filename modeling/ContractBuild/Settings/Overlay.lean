import ContractBuild.Settings.Error

/-!
# Overlaid settings

Settings from a file are laid over the built-in ones. A map is laid over a map entry by entry, and any other value takes
the place of what was there. Keys keep their places, and new ones follow.
-/

namespace ContractBuild.Settings

mutual

/-- What stands where `v` is laid over an old value. -/
def laidOver (old : Option Value) : Value → Value
  | .map entries =>
    match old with
    | some (.map base) => .map (overlay base entries)
    | _ => .map entries
  | .null => .null
  | .bool b => .bool b
  | .int n => .int n
  | .float x => .float x
  | .text t => .text t
  | .list items => .list items

/-- The entries of a map with others laid over them. -/
def overlay (base : List (Text × Value)) : List (Text × Value) → List (Text × Value)
  | [] => base
  | (k, v) :: rest => overlay (Value.put k (laidOver (Value.entry? k base) v) base) rest

end

/-- Why nothing can be laid over a value that is no map, beginning with the given value. -/
def overlayError (base first : Value) : Error :=
  match first, base with
  | .map _, _ => .noSections base
  | _, .list _ => .listKey
  | _, _ => .notAssignable base

/-- A value laid over another. -/
def merge (base : Value) : Value → Except Error Value
  | .map entries =>
    match base, entries with
    | .map b, _ => .ok (.map (overlay b entries))
    | _, [] => .ok base
    | _, (_, v) :: _ => .error (overlayError base v)
  | v => .error (.noEntries v)

end ContractBuild.Settings
