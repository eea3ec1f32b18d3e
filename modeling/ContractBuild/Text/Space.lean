import ContractBuild.Text.Basic

/-!
# White space and lines

`CodePoint.isSpace` is the white space of Unicode with the four separators U+001C to U+001F. `Text.strip` removes it at
both ends. `Text.lines` breaks a text at every line boundary of Unicode, a carriage return with a line feed being one
boundary, and gives no empty line behind the last one.
-/

namespace ContractBuild

namespace CodePoint

/-- White space. -/
def isSpace (c : CodePoint) : Bool :=
  (0x09 ≤ c.val && c.val ≤ 0x0D) || (0x1C ≤ c.val && c.val ≤ 0x20) || c.val == 0x85 || c.val == 0xA0 ||
    c.val == 0x1680 || (0x2000 ≤ c.val && c.val ≤ 0x200A) || c.val == 0x2028 || c.val == 0x2029 ||
    c.val == 0x202F || c.val == 0x205F || c.val == 0x3000

/-- A code point that ends a line. -/
def isLineBoundary (c : CodePoint) : Bool :=
  (0x0A ≤ c.val && c.val ≤ 0x0D) || (0x1C ≤ c.val && c.val ≤ 0x1E) || c.val == 0x85 || c.val == 0x2028 ||
    c.val == 0x2029

end CodePoint

namespace Text

/-- The line feed. -/
def lineFeed : CodePoint := '\n'

/-- The carriage return. -/
def carriageReturn : CodePoint := '\r'

/-- `t` without the white space at its start. -/
def stripLeft (t : Text) : Text := t.dropWhile CodePoint.isSpace

/-- `t` without the white space at its end. -/
def stripRight (t : Text) : Text := (t.reverse.dropWhile CodePoint.isSpace).reverse

/-- `t` without the white space at its start and end. -/
def strip (t : Text) : Text := (t.stripLeft).stripRight

/-- Whether `t` is empty or white space only. -/
def isBlank (t : Text) : Bool := t.all CodePoint.isSpace

/-- `t` without the copies of `c` at its end. -/
def dropTrailing (c : CodePoint) (t : Text) : Text := (t.reverse.dropWhile (· = c)).reverse

/-- The lines of the text that follows `line`, the line so far with its last code point first; `afterReturn` says
whether a carriage return has just ended a line. -/
def linesFrom (afterReturn : Bool) (line : Text) : Text → List Text
  | [] => if line.isEmpty then [] else [line.reverse]
  | c :: t =>
    if afterReturn && c = lineFeed then linesFrom false line t
    else if c.isLineBoundary then line.reverse :: linesFrom (c = carriageReturn) [] t
    else linesFrom false (c :: line) t

/-- The lines of a text. -/
def lines (t : Text) : List Text := linesFrom false [] t

/-- `t` with every carriage return, and every carriage return with a line feed, made a line feed. -/
def unifyLineEnds : Text → Text
  | [] => []
  | c :: t =>
    if c = carriageReturn then
      if t.head? = some lineFeed then unifyLineEnds t else lineFeed :: unifyLineEnds t
    else c :: unifyLineEnds t

/-- The text up to its first line boundary. -/
def firstLine (t : Text) : Text := t.lines.headD []

end Text

end ContractBuild
