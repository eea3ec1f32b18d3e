import ContractBuild.Binary64.Shortest
import ContractBuild.Value.Basic

/-!
# Writing JSON

A layout says what stands between the parts of a document: `Layout.compact` nothing, `Layout.spaced` one space, and
`Layout.indented` line ends and two spaces for each level. An empty list or map is written without anything between its
brackets. Texts are written in ASCII unless the layout keeps other code points; then only quotes, backslashes and controls
are escaped.
-/

namespace ContractBuild.Json

/-- What stands between the parts of a document. -/
structure Layout where
  itemSeparator : Text
  keySeparator : Text
  indent : Option Nat
  asciiOnly : Bool

namespace Layout

/-- Nothing between the parts. -/
def compact : Layout := ⟨",", ":", none, true⟩

/-- A space behind commas and colons. -/
def spaced : Layout := ⟨", ", ": ", none, true⟩

/-- A line for every item, with two spaces for each level. -/
def indented : Layout := ⟨",", ": ", some 2, true⟩

/-- What stands before an item on the given level. -/
def lineStart (l : Layout) (level : Nat) : Text :=
  match l.indent with
  | none => []
  | some n => '\n' :: Text.copies (n * level) ' '

end Layout

/-- An escape with four hexadecimal digits. -/
def hexEscape (n : Nat) : Text :=
  "\\u" ++ Text.padLeft (Text.ofChars (Nat.toDigits 16 n)) 4 '0'

/-- The escape with one letter that a code point has. -/
def letterEscape? (c : CodePoint) : Option Text :=
  if c = '"' then some "\\\""
  else if c = '\\' then some "\\\\"
  else if c = '\n' then some "\\n"
  else if c = '\r' then some "\\r"
  else if c = '\t' then some "\\t"
  else if c.val = 0x0C then some "\\f"
  else if c.val = 0x08 then some "\\b"
  else none

/-- A code point inside quotes. -/
def point (asciiOnly : Bool) (c : CodePoint) : Text :=
  match letterEscape? c with
  | some e => e
  | none =>
    if c.val < 0x20 then hexEscape c.val
    else if c.val < 0x7F || !asciiOnly then [c]
    else if c.val < 0x10000 then hexEscape c.val
    else
      let n := c.val - 0x10000
      hexEscape (0xD800 + n / 0x400) ++ hexEscape (0xDC00 + n % 0x400)

/-- A text in quotes. -/
def string (asciiOnly : Bool) (t : Text) : Text := "\"" ++ t.flatMap (point asciiOnly) ++ "\""

/-- The spelling of numbers that are not finite. -/
def numberNames : Binary64.SpecialNames := ⟨"Infinity", "NaN"⟩

mutual

/-- A value on the given level. -/
def printAt (l : Layout) (level : Nat) : Value → Text
  | .null => "null"
  | .bool b => if b then "true" else "false"
  | .int n => Text.ofInt n
  | .float x => x.render numberNames
  | .text t => string l.asciiOnly t
  | .list items =>
    if items.isEmpty then "[]" else "[" ++ printItems l (level + 1) items ++ l.lineStart level ++ "]"
  | .map entries =>
    if entries.isEmpty then "\x7b\x7d"
    else "\x7b" ++ printEntries l (level + 1) entries ++ l.lineStart level ++ "\x7d"

/-- The items of a list. -/
def printItems (l : Layout) (level : Nat) : List Value → Text
  | [] => []
  | v :: rest =>
    l.lineStart level ++ printAt l level v ++ (if rest.isEmpty then [] else l.itemSeparator) ++
      printItems l level rest

/-- The entries of a map. -/
def printEntries (l : Layout) (level : Nat) : List (Text × Value) → Text
  | [] => []
  | (k, v) :: rest =>
    l.lineStart level ++ string l.asciiOnly k ++ l.keySeparator ++ printAt l level v ++
      (if rest.isEmpty then [] else l.itemSeparator) ++ printEntries l level rest

end

/-- A value as a document. -/
def print (l : Layout) (v : Value) : Text := printAt l 0 v

end ContractBuild.Json
