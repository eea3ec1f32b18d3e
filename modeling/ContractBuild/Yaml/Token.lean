import ContractBuild.Encoding.Utf8
import ContractBuild.Yaml.Scalar

/-!
# Tokens

A settings document is a sequence of tokens. Indentation shows as tokens too: `blockSequence` and `blockMapping` open a
level and `blockEnd` closes it. A `key` token stands before each key. For a key that is written without a question mark
this is known only at the colon, so the lexer remembers where such a key may have begun and puts the token there
afterwards. Such a key has to end on its line and within 1024 code points.
-/

namespace ContractBuild.Yaml

/-- How a scalar is written, as far as it matters for its meaning. -/
inductive ScalarStyle where
  | plain
  | quoted
deriving DecidableEq

/-- A tag as it is written: a handle, if there is one, and what follows it. -/
structure WrittenTag where
  handle : Option Text
  rest : Text
deriving DecidableEq

/-- What a directive says. -/
inductive Directive where
  | version (major : Nat)
  | handle (name uri : Text)
  | other
deriving DecidableEq

/-- A token of a document. -/
inductive Token where
  | directive (d : Directive)
  | documentStart
  | documentEnd
  | blockSequence
  | blockMapping
  | blockEnd
  | flowSequence
  | flowSequenceEnd
  | flowMapping
  | flowMappingEnd
  | item
  | comma
  | key
  | value
  | anchor (name : Text)
  | alias (name : Text)
  | tag (t : WrittenTag)
  | scalar (style : ScalarStyle) (text : Text)
deriving DecidableEq

/-! ## Anchors, tags and directives -/

/-- The name of an anchor or alias. -/
def anchorName (c : Cursor) : Scanned :=
  let (name, c) := c.next.takeWhile isNamePart
  if name.isEmpty then .error .malformed
  else if endsIndicator c.peek? || (c.peek?.map (isIn "?:,]\x7d%@`")).getD false then .ok (name, c)
  else .error .malformed

/-- A handle, from its first exclamation mark to its last. -/
def tagHandle (c : Cursor) : Scanned :=
  if !c.follows '!' then .error .malformed
  else if c.next.follows ' ' then .ok ("!", c.next)
  else
    let (name, c) := c.next.takeWhile isNamePart
    if c.follows '!' then .ok ("!" ++ name ++ "!", c.next) else .error .malformed

/-- A code point of an address. -/
def isAddressPart (c : CodePoint) : Bool := isNamePart c || isIn ";/?:@&=+$,.!~*'()[]%" c

/-- An address with its escapes resolved to bytes. -/
def addressBytes : Text → Option Bytes
  | [] => some []
  | p :: t =>
    if p = '%' then
      match t with
      | a :: b :: t =>
        match a.hexValue?, b.hexValue? with
        | some x, some y => (addressBytes t).map fun bs => UInt8.ofNat (x * 16 + y) :: bs
        | _, _ => none
      | _ => none
    else (addressBytes t).map fun bs => Utf8.encodePoint p ++ bs

/-- An address. -/
def tagAddress (c : Cursor) : Scanned :=
  let (written, c) := c.takeWhile isAddressPart
  match written.isEmpty, (addressBytes written).map Utf8.decodeStrict with
  | false, some (.ok t) => .ok (t, c)
  | _, _ => .error .malformed

/-- Whether the word that follows holds an exclamation mark. -/
def hasHandle (c : Cursor) : Bool :=
  (c.rest.takeWhile fun p => !endsWord (some p)).elem ('!' : CodePoint)

/-- A tag. -/
def writtenTag (c : Cursor) : Except Error (WrittenTag × Cursor) :=
  let result : Except Error (WrittenTag × Cursor) :=
    if c.next.follows '<' then
      match tagAddress (c.forward 2) with
      | .ok (uri, c) => if c.follows '>' then .ok (⟨none, uri⟩, c.next) else .error .malformed
      | .error e => .error e
    else if endsIndicator c.next.peek? then .ok (⟨none, "!"⟩, c.next)
    else if hasHandle c.next then
      match tagHandle c with
      | .ok (handle, c) => (tagAddress c).map fun (rest, c) => (⟨some handle, rest⟩, c)
      | .error e => .error e
    else (tagAddress c.next).map fun (rest, c) => (⟨some "!", rest⟩, c)
  match result with
  | .ok (t, c) => if endsWord c.peek? then .ok (t, c) else .error .malformed
  | .error e => .error e

/-- A number in a directive. -/
def directiveNumber (c : Cursor) : Except Error (Nat × Cursor) :=
  let (digits, c) := c.takeWhile CodePoint.isDigit
  if digits.isEmpty then .error .malformed else .ok (digits.toNat, c)

/-- The rest of a directive that gives the version. -/
def versionDirective (c : Cursor) : Except Error (Directive × Cursor) := do
  let (major, c) ← directiveNumber c.skipSpaces
  if !c.follows '.' then throw .malformed
  let (_, c) ← directiveNumber c.next
  if !endsWord c.peek? then throw .malformed
  return (.version major, c)

/-- The rest of a directive that gives a handle. -/
def handleDirective (c : Cursor) : Except Error (Directive × Cursor) := do
  let (handle, c) ← tagHandle c.skipSpaces
  if !c.follows ' ' then throw .malformed
  let (uri, c) ← tagAddress c.skipSpaces
  if !endsWord c.peek? then throw .malformed
  return (.handle handle uri, c)

/-- A directive. -/
def directive (c : Cursor) : Except Error (Directive × Cursor) := do
  let (name, c) := c.next.takeWhile isNamePart
  if name.isEmpty || !endsWord c.peek? then throw .malformed
  let (d, c) ←
    if name = "YAML" then versionDirective c
    else if name = "TAG" then handleDirective c
    else pure (.other, c.skipLine)
  return (d, ← c.finishLine)

/-! ## The lexer -/

/-- Where a key without a question mark may have begun: the number of its token and its place. A required one stands where
nothing but a key can stand. -/
structure PossibleKey where
  token : Nat
  required : Bool
  index : Nat
  line : Nat
  column : Nat

/-- The state of the lexer: its place, the tokens so far, the depth of brackets, the indentation with those around it,
whether a key may begin, and the possible key of each depth. -/
structure Lexer where
  cursor : Cursor
  tokens : Array Token
  depth : Nat
  indent : Int
  indents : List Int
  keyAllowed : Bool
  keys : List (Nat × PossibleKey)

/-- The longest key without a question mark. -/
def maxKeyLength : Nat := 1024

namespace Lexer

/-- The lexer at the start of a document. -/
def start (t : Text) : Lexer := ⟨.start t, #[], 0, -1, [], true, []⟩

/-- Whether indentation counts, that is, outside of all brackets. -/
def inBlock (l : Lexer) : Bool := l.depth = 0

/-- Adds a token. -/
def push (l : Lexer) (t : Token) : Lexer := { l with tokens := l.tokens.push t }

/-- Drops the possible key of the current depth; it must not be a required one. -/
def dropKey (l : Lexer) : Except Error Lexer :=
  match l.keys.lookup l.depth with
  | none => .ok l
  | some k => if k.required then .error .malformed else .ok { l with keys := l.keys.filter (·.1 ≠ l.depth) }

/-- Remembers that a key may begin here. -/
def saveKey (l : Lexer) : Except Error Lexer :=
  if !l.keyAllowed then .ok l
  else l.dropKey.map fun l =>
    let required := l.inBlock && l.indent = l.cursor.column
    let k : PossibleKey := ⟨l.tokens.size, required, l.cursor.index, l.cursor.line, l.cursor.column⟩
    { l with keys := (l.depth, k) :: l.keys }

/-- Whether a possible key can no longer end in a colon. -/
def isStale (c : Cursor) (k : PossibleKey) : Bool := k.line ≠ c.line || c.index - k.index > maxKeyLength

/-- Drops the possible keys that can no longer end in a colon; a required one must not be among them. -/
def dropStaleKeys (l : Lexer) : Except Error Lexer :=
  if l.keys.any fun (_, k) => isStale l.cursor k && k.required then .error .malformed
  else .ok { l with keys := l.keys.filter fun (_, k) => !isStale l.cursor k }

/-- Closes the levels of indentation deeper than a column. -/
def closeLevels (column : Int) : List Int → Lexer → Lexer
  | [], l => l
  | outer :: rest, l =>
    if l.indent > column then closeLevels column rest ({ l with indent := outer, indents := rest }.push .blockEnd) else l

/-- Closes the levels of indentation deeper than a column, outside of brackets. -/
def unwind (l : Lexer) (column : Int) : Lexer := if l.inBlock then closeLevels column l.indents l else l

/-- Opens a level of indentation at a column, when it is deeper than the current one, with `t` as token number `position`. -/
def openLevel (l : Lexer) (column : Nat) (position : Nat) (t : Token) : Lexer :=
  if l.indent < column then
    { l with indents := l.indent :: l.indents, indent := column, tokens := l.tokens.insertIdxIfInBounds position t }
  else l

/-- The place of the next token. -/
def skipGap : Nat → Lexer → Lexer
  | 0, l => l
  | fuel + 1, l =>
    let c := l.cursor.skipSpaces.skipComment
    if c.atBreak then
      skipGap fuel { l with cursor := c.lineBreak.2, keyAllowed := l.keyAllowed || l.inBlock }
    else { l with cursor := c }

/-! ### One token -/

/-- What ends a document or stands between two: the levels are closed. -/
def leaveBlocks (l : Lexer) : Except Error Lexer := (l.unwind (-1)).dropKey.map fun l => { l with keyAllowed := false }

/-- A token that opens brackets. -/
def openBracket (l : Lexer) (t : Token) : Except Error Lexer :=
  l.saveKey.map fun l => { l with depth := l.depth + 1, keyAllowed := true, cursor := l.cursor.next }.push t

/-- A token that closes brackets; some must be open. -/
def closeBracket (l : Lexer) (t : Token) : Except Error Lexer :=
  if l.inBlock then .error .malformed
  else l.dropKey.map fun l => { l with depth := l.depth - 1, keyAllowed := false, cursor := l.cursor.next }.push t

/-- A comma, which stands only inside of brackets. -/
def comma (l : Lexer) : Except Error Lexer :=
  if l.inBlock then .error .malformed
  else l.dropKey.map fun l => { l with keyAllowed := true, cursor := l.cursor.next }.push .comma

/-- The dash of an item. -/
def item (l : Lexer) : Except Error Lexer :=
  if l.inBlock && !l.keyAllowed then .error .malformed
  else
    let l := if l.inBlock then l.openLevel l.cursor.column l.tokens.size .blockSequence else l
    l.dropKey.map fun l => { l with keyAllowed := true, cursor := l.cursor.next }.push .item

/-- The question mark of a key. -/
def explicitKey (l : Lexer) : Except Error Lexer :=
  if l.inBlock && !l.keyAllowed then .error .malformed
  else
    let l := if l.inBlock then l.openLevel l.cursor.column l.tokens.size .blockMapping else l
    l.dropKey.map fun l => { l with keyAllowed := l.inBlock, cursor := l.cursor.next }.push .key

/-- The colon behind a key. -/
def value (l : Lexer) : Except Error Lexer :=
  match l.keys.lookup l.depth with
  | some k =>
    let l := { l with keys := l.keys.filter (·.1 ≠ l.depth), tokens := l.tokens.insertIdxIfInBounds k.token .key }
    let l := if l.inBlock then l.openLevel k.column k.token .blockMapping else l
    .ok ({ l with keyAllowed := false, cursor := l.cursor.next }.push .value)
  | none =>
    if l.inBlock && !l.keyAllowed then .error .malformed
    else
      let l := if l.inBlock then l.openLevel l.cursor.column l.tokens.size .blockMapping else l
      .ok ({ l with keyAllowed := l.inBlock, cursor := l.cursor.next }.push .value)

/-- A token that a key may begin with, read by `scan`. -/
def inKey (l : Lexer) (scan : Cursor → Except Error (Token × Cursor)) : Except Error Lexer := do
  let l ← l.saveKey
  let (t, c) ← scan l.cursor
  return { l with keyAllowed := false, cursor := c }.push t

/-- A block scalar. -/
def block (l : Lexer) (folded : Bool) : Except Error Lexer := do
  let l ← l.dropKey
  let (t, c) ← blockScalar folded l.indent l.cursor
  return { l with keyAllowed := true, cursor := c }.push (.scalar .quoted t)

/-- A plain scalar. -/
def plain (l : Lexer) : Except Error Lexer :=
  l.saveKey.map fun l =>
    let (t, crossed, c) := plainScalar (!l.inBlock) l.indent l.cursor
    { l with keyAllowed := crossed, cursor := c }.push (.scalar .plain t)

/-- The code points that no plain scalar begins with. -/
def indicators : Text := "-?:,[]\x7b\x7d#&*!|>'\"%@`"

/-- Whether a plain scalar begins with `p`, when `next` follows. -/
def beginsPlain (l : Lexer) (p : CodePoint) (next : Option CodePoint) : Bool :=
  (!isBlank p && !isBreak p && !isIn indicators p) ||
    (!endsIndicator next && (p = '-' || (l.inBlock && isIn "?:" p)))

/-- Reads the token that begins with `p`, which follows. -/
def token (l : Lexer) (p : CodePoint) : Except Error Lexer :=
  let c := l.cursor
  let next := c.peekAt? 1
  if p = '%' && c.column = 0 then do
    let l ← l.leaveBlocks
    let (d, c) ← directive l.cursor
    return { l with cursor := c }.push (.directive d)
  else if c.column = 0 && c.atMarker "---" then
    l.leaveBlocks.map fun l => { l with cursor := l.cursor.forward 3 }.push .documentStart
  else if c.column = 0 && c.atMarker "..." then
    l.leaveBlocks.map fun l => { l with cursor := l.cursor.forward 3 }.push .documentEnd
  else if p = '[' then l.openBracket .flowSequence
  else if p = '\x7b' then l.openBracket .flowMapping
  else if p = ']' then l.closeBracket .flowSequenceEnd
  else if p = '\x7d' then l.closeBracket .flowMappingEnd
  else if p = ',' then l.comma
  else if p = '-' && endsIndicator next then l.item
  else if p = '?' && (!l.inBlock || endsIndicator next) then l.explicitKey
  else if p = ':' && (!l.inBlock || endsIndicator next) then l.value
  else if p = '*' then l.inKey fun c => (anchorName c).map fun (t, c) => (.alias t, c)
  else if p = '&' then l.inKey fun c => (anchorName c).map fun (t, c) => (.anchor t, c)
  else if p = '!' then l.inKey fun c => (writtenTag c).map fun (t, c) => (.tag t, c)
  else if p = '|' && l.inBlock then l.block false
  else if p = '>' && l.inBlock then l.block true
  else if p = '\'' || p = '"' then
    l.inKey fun c => (quotedScalar p c).map fun (t, c) => (.scalar .quoted t, c)
  else if l.beginsPlain p next then l.plain
  else .error .malformed

/-- The tokens up to the end of the document. -/
def run : Nat → Lexer → Except Error (Array Token)
  | 0, _ => .error .malformed
  | fuel + 1, l =>
    let l := skipGap (l.cursor.rest.length + 1) l
    match l.dropStaleKeys with
    | .error e => .error e
    | .ok l =>
      let l := l.unwind l.cursor.column
      match l.cursor.peek? with
      | none => l.leaveBlocks.map (·.tokens)
      | some p =>
        match l.token p with
        | .error e => .error e
        | .ok l => run fuel l

end Lexer

/-- A code point that a document may hold. -/
def isAllowed (c : CodePoint) : Bool :=
  c.val = 0x09 || c.val = 0x0A || c.val = 0x0D || (0x20 ≤ c.val && c.val ≤ 0x7E) || c.val = 0x85 ||
    (0xA0 ≤ c.val && c.val ≤ 0xD7FF) || (0xE000 ≤ c.val && c.val ≤ 0xFFFD) || 0x10000 ≤ c.val

/-- The tokens of a document. A byte order mark at its start is passed over. -/
def tokens (t : Text) : Except Error (List Token) :=
  if !t.all isAllowed then .error .malformed
  else
    let l := Lexer.start t
    let l := if (t.head?.map isMark).getD false then { l with cursor := l.cursor.next } else l
    (Lexer.run (t.length + 1) l).map Array.toList

end ContractBuild.Yaml
