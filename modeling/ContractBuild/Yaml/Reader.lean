import ContractBuild.Json.Printer
import ContractBuild.Yaml.Node

/-!
# Reading settings documents

`Yaml.parse` gives the value of a document. A key that is no text becomes the text that JSON has for it. The last of equal
keys decides. The entries of a map under the merge key stand before the entries beside it, so that these decide.
-/

namespace ContractBuild.Yaml

namespace Node

/-- The text of a key. -/
def keyText : Value → Except Error Text
  | .text t => .ok t
  | .list _ | .map _ => .error .malformed
  | v => .ok (Json.print .compact v)

/-- Merged entries, and the entries beside them. -/
structure Bindings where
  merged : List (Text × Value)
  own : List (Text × Value)

/-- All entries, merged ones first. -/
def Bindings.all (b : Bindings) : List (Text × Value) := b.merged ++ b.own

/-- Whether a node is the merge key. -/
def isMergeKey : Node → Bool
  | .scalar .merge _ => true
  | _ => false

mutual

/-- The value of a node. -/
def toValue : Node → Except Error Value
  | .scalar tag t => scalarValue tag t
  | .list tag items => if tag = .list then (itemValues items).map .list else .error .malformed
  | .map tag pairs => if tag = .map then (bindings pairs).map fun b => .map (Value.ofBindings b.all) else .error .malformed

/-- The values of nodes. -/
def itemValues : List Node → Except Error (List Value)
  | [] => .ok []
  | n :: rest => do return (← n.toValue) :: (← itemValues rest)

/-- The entries of a map. -/
def bindings : List (Node × Node) → Except Error Bindings
  | [] => .ok ⟨[], []⟩
  | (key, value) :: rest =>
    if key.isMergeKey then do
      let merged ← mergedEntries value
      let b ← bindings rest
      return { b with merged := merged ++ b.merged }
    else do
      let k ← keyValue key
      let v ← value.toValue
      let b ← bindings rest
      return { b with own := (k, v) :: b.own }

/-- The text of the key that a node is. -/
def keyValue : Node → Except Error Text
  | .scalar tag t => if tag = .value then .ok t else (scalarValue tag t).bind keyText
  | _ => .error .malformed

/-- The entries that a node under the merge key gives: those of a map, or of the maps in a list, the first deciding. -/
def mergedEntries : Node → Except Error (List (Text × Value))
  | .scalar _ _ => .error .malformed
  | .map _ pairs => (bindings pairs).map Bindings.all
  | .list _ items => mergedItems items

/-- The entries of the maps in a list, the last map first. -/
def mergedItems : List Node → Except Error (List (Text × Value))
  | [] => .ok []
  | n :: rest => do
    let first ← mergedMap n
    return (← mergedItems rest) ++ first

/-- The entries of a map. -/
def mergedMap : Node → Except Error (List (Text × Value))
  | .map _ pairs => (bindings pairs).map Bindings.all
  | _ => .error .malformed

end

end Node

/-- The value of a document, null for an empty one. -/
def parse (t : Text) : Except Error Value := do
  match ← Node.ofTokens (← tokens t) with
  | none => return .null
  | some node => node.toValue

end ContractBuild.Yaml
