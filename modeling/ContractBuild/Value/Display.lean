import ContractBuild.Binary64.Shortest
import ContractBuild.Text.Quoted
import ContractBuild.Value.Basic

/-!
# Values in messages

`Value.display` is how a message shows a value. A text stands for itself; inside a list or a map it is quoted, and keys
are quoted too. `Value.kindName` is the word that messages use for the kind of a value.
-/

namespace ContractBuild.Value

/-- The spelling of numbers in messages. -/
def numberNames : Binary64.SpecialNames := ⟨"inf", "nan"⟩

/-- What stands between an item and `rest`. -/
def comma {α : Type} (rest : List α) : Text := if rest.isEmpty then [] else ", "

mutual

/-- A value as it is shown inside another one. -/
def shown : Value → Text
  | .null => "None"
  | .bool b => if b then "True" else "False"
  | .int n => Text.ofInt n
  | .float x => x.render numberNames
  | .text t => t.quoted
  | .list items => "[" ++ shownItems items ++ "]"
  | .map entries => "\x7b" ++ shownEntries entries ++ "\x7d"

/-- The items of a list, with commas between them. -/
def shownItems : List Value → Text
  | [] => []
  | v :: rest => v.shown ++ comma rest ++ shownItems rest

/-- The entries of a map, with commas between them. -/
def shownEntries : List (Text × Value) → Text
  | [] => []
  | (k, v) :: rest => k.quoted ++ ": " ++ v.shown ++ comma rest ++ shownEntries rest

end

/-- A value as a message shows it. -/
def display : Value → Text
  | .text t => t
  | v => v.shown

/-- The word for the kind of a value. -/
def kindName : Value → Text
  | .null => "NoneType"
  | .bool _ => "bool"
  | .int _ => "int"
  | .float _ => "float"
  | .text _ => "str"
  | .list _ => "list"
  | .map _ => "dict"

end ContractBuild.Value
