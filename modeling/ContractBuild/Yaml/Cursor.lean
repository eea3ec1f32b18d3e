import ContractBuild.Text.Space

/-!
# Places in a document

A cursor is a place in a settings document: what follows it, how many code points stand before it, and its line and
column. A byte order mark takes no column.
-/

namespace ContractBuild.Yaml

/-- Why a document cannot be read. -/
inductive Error where
  | malformed
  | tooDeep
deriving DecidableEq

/-- A place in a document. -/
structure Cursor where
  rest : Text
  index : Nat
  line : Nat
  column : Nat

/-! ## Classes of code points -/

/-- A code point that ends a line. -/
def isBreak (c : CodePoint) : Bool :=
  c.val = 0x0A || c.val = 0x0D || c.val = 0x85 || c.val = 0x2028 || c.val = 0x2029

/-- A space or a tab. -/
def isBlank (c : CodePoint) : Bool := c.val = 0x20 || c.val = 0x09

/-- The byte order mark. -/
def isMark (c : CodePoint) : Bool := c.val = 0xFEFF

/-- Whether the document or the line ends. -/
def endsLine (c : Option CodePoint) : Bool := (c.map isBreak).getD true

/-- Whether a space follows, or the document or line ends. -/
def endsWord (c : Option CodePoint) : Bool := endsLine c || c = some (' ' : CodePoint)

/-- Whether a space or a tab follows, or the document or line ends. -/
def endsIndicator (c : Option CodePoint) : Bool := endsLine c || (c.map isBlank).getD false

/-- A code point of a name. -/
def isNamePart (c : CodePoint) : Bool := c.isDigit || c.isLetter || c = '-' || c = '_'

/-- Whether a code point is one of a text. -/
def isIn (t : Text) (c : CodePoint) : Bool := t.elem c

namespace Cursor

/-- The start of a document. -/
def start (t : Text) : Cursor := ⟨t, 0, 0, 0⟩

/-- The code point that follows. -/
def peek? (c : Cursor) : Option CodePoint := c.rest.head?

/-- The code point that follows behind `n` others. -/
def peekAt? (c : Cursor) (n : Nat) : Option CodePoint := (c.rest.drop n).head?

/-- Whether the given code point follows. -/
def follows (c : Cursor) (p : CodePoint) : Bool := c.peek? = some p

/-- The place behind the next code point. -/
def next (c : Cursor) : Cursor :=
  match c.rest with
  | [] => c
  | p :: rest =>
    if isBreak p && !(p = Text.carriageReturn && rest.head? = some Text.lineFeed) then ⟨rest, c.index + 1, c.line + 1, 0⟩
    else ⟨rest, c.index + 1, c.line, if isMark p then c.column else c.column + 1⟩

/-- The place behind the next `n` code points. -/
def forward : Nat → Cursor → Cursor
  | 0, c => c
  | n + 1, c => forward n c.next

/-- The code points that follow and have a property, with the place behind them. -/
def takeWhile (p : CodePoint → Bool) (c : Cursor) : Text × Cursor :=
  let t := c.rest.takeWhile p
  (t, c.forward t.length)

/-- The place behind the code points that follow and have a property. -/
def skipWhile (p : CodePoint → Bool) (c : Cursor) : Cursor := (c.takeWhile p).2

/-- The place behind the spaces that follow. -/
def skipSpaces (c : Cursor) : Cursor := c.skipWhile (·.val = 0x20)

/-- The place at the end of the line. -/
def skipLine (c : Cursor) : Cursor := c.skipWhile (!isBreak ·)

/-- The place behind a comment, when one follows. -/
def skipComment (c : Cursor) : Cursor := if c.follows '#' then c.skipLine else c

/-- What a line end stands for, with the place behind it; nothing when none follows. -/
def lineBreak (c : Cursor) : Text × Cursor :=
  match c.rest with
  | [] => ([], c)
  | p :: rest =>
    if p = Text.carriageReturn && rest.head? = some Text.lineFeed then ("\n", c.forward 2)
    else if p.val = 0x2028 || p.val = 0x2029 then ([p], c.next)
    else if isBreak p then ("\n", c.next)
    else ([], c)

/-- Whether a line break follows. -/
def atBreak (c : Cursor) : Bool := (c.peek?.map isBreak).getD false

/-- Whether the three code points of a document's start or end follow. -/
def atMarker (c : Cursor) (marker : Text) : Bool :=
  Text.startsWith c.rest marker && endsIndicator (c.peekAt? 3)

/-- Whether a document starts or ends. -/
def atSeparator (c : Cursor) : Bool := c.atMarker "---" || c.atMarker "..."

/-- The place behind the spaces and the comment that end a line; nothing else may stand there. -/
def finishLine (c : Cursor) : Except Error Cursor :=
  let c := c.skipSpaces.skipComment
  if endsLine c.peek? then .ok c.lineBreak.2 else .error .malformed

end Cursor

end ContractBuild.Yaml
