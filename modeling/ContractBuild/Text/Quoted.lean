import ContractBuild.Text.Basic
import ContractBuild.Text.PrintableRanges

/-!
# Quoted text

Messages show a text in single quotes, or in double quotes when it holds a single quote and no double quote. The quote
in use and the backslash are escaped, and so is what cannot be printed, by the shortest of the escapes with two, four and
eight hexadecimal digits.
-/

namespace ContractBuild

/-- A code point that is shown as it is. -/
def CodePoint.isPrintable (c : CodePoint) : Bool := Text.printableRanges.contains c.val

namespace Text

/-- A number in base sixteen with at least `width` digits. -/
def hex (width n : Nat) : Text := padLeft (ofChars (Nat.toDigits 16 n)) width '0'

/-- One code point inside quotes. -/
def quotedPoint (quote c : CodePoint) : Text :=
  if c = quote || c = '\\' then ['\\', c]
  else if c = '\t' then "\\t"
  else if c = '\n' then "\\n"
  else if c = '\r' then "\\r"
  else if c.isPrintable then [c]
  else if c.val ≤ 0xFF then "\\x" ++ hex 2 c.val
  else if c.val ≤ 0xFFFF then "\\u" ++ hex 4 c.val
  else "\\U" ++ hex 8 c.val

/-- The quote that a text is shown in. -/
def quoteFor (t : Text) : CodePoint :=
  if t.elem ('\'' : CodePoint) && !t.elem ('"' : CodePoint) then '"' else '\''

/-- A text in quotes. -/
def quoted (t : Text) : Text :=
  let quote := quoteFor t
  quote :: t.flatMap (quotedPoint quote) ++ [quote]

end Text

end ContractBuild
