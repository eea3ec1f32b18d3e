import ContractBuild.Yaml.Cursor

/-!
# Scalars

The scalars of a document: quoted ones, blocks, and plain ones. A line break inside a quoted or plain scalar becomes a
space, unless empty lines follow it, which then stand for themselves. A block keeps its line breaks or folds them, and
what becomes of those at its end is said in its heading.
-/

namespace ContractBuild.Yaml

/-- A text with the place behind it. -/
abbrev Scanned := Except Error (Text × Cursor)

/-- A line break inside a scalar, with the breaks that follow it. -/
def foldedBreak (first breaks : Text) : Text :=
  (if first ≠ "\n" then first else if breaks.isEmpty then " " else []) ++ breaks

/-! ## Quoted scalars -/

/-- The line breaks and blanks that follow; a document must not end between them. -/
def quotedBreaks : Nat → Cursor → Scanned
  | 0, _ => .error .malformed
  | fuel + 1, c =>
    if c.atSeparator then .error .malformed
    else
      let c := c.skipWhile isBlank
      if c.atBreak then
        let (b, c) := c.lineBreak
        (quotedBreaks fuel c).map fun (bs, c) => (b ++ bs, c)
      else .ok ([], c)

/-- The escapes of one letter. -/
def letterEscapes : List (CodePoint × Text) := [
  ('0', "\x00"), ('a', "\x07"), ('b', "\x08"), ('t', "\t"), ('\t', "\t"), ('n', "\n"), ('v', "\x0b"), ('f', "\x0c"),
  ('r', "\r"), ('e', "\x1b"), (' ', " "), ('"', "\""), ('\\', "\\"), ('/', "/"), ('N', "\u0085"), ('_', "\u00a0"),
  ('L', "\u2028"), ('P', "\u2029")]

/-- The number of digits behind each of the other escapes. -/
def digitEscapes : List (CodePoint × Nat) := [('x', 2), ('u', 4), ('U', 8)]

/-- The code point that `n` hexadecimal digits name. -/
def escapedPoint (n : Nat) (c : Cursor) : Scanned :=
  let digits := c.rest.take n
  if digits.length = n && digits.all (·.hexValue?.isSome) then
    let code := Text.foldDigits 16 (fun d => d.hexValue?.getD 0) digits
    if code < 0x110000 then .ok ([CodePoint.ofNat code], c.forward n) else .error .malformed
  else .error .malformed

/-- What the escape behind a backslash stands for. -/
def escape (c : Cursor) : Scanned :=
  match c.peek? with
  | none => .error .malformed
  | some p =>
    match letterEscapes.lookup p, digitEscapes.lookup p with
    | some t, _ => .ok (t, c.next)
    | none, some n => escapedPoint n c.next
    | none, none =>
      if isBreak p then
        let c := c.lineBreak.2
        quotedBreaks (c.rest.length + 1) c
      else .error .malformed

/-- The blanks and line breaks that follow inside quotes. -/
def quotedSpace (c : Cursor) : Scanned :=
  let (blanks, c) := c.takeWhile isBlank
  if c.rest.isEmpty then .error .malformed
  else if c.atBreak then
    let (b, c) := c.lineBreak
    (quotedBreaks (c.rest.length + 1) c).map fun (bs, c) => (foldedBreak b bs, c)
  else .ok (blanks, c)

/-- What stands up to the closing quote. -/
def quotedRest (quote : CodePoint) : Nat → Cursor → Scanned
  | 0, _ => .error .malformed
  | fuel + 1, c =>
    let continueWith : Text × Cursor → Scanned := fun (t, c) => (quotedRest quote fuel c).map fun (u, c) => (t ++ u, c)
    match c.peek? with
    | none => .error .malformed
    | some p =>
      if p = quote then
        if quote = '\'' && c.peekAt? 1 = some quote then continueWith ([quote], c.forward 2) else .ok ([], c.next)
      else if isBlank p || isBreak p then (quotedSpace c).bind continueWith
      else if p = '\\' && quote = '"' then (escape c.next).bind continueWith
      else continueWith ([p], c.next)

/-- A quoted scalar. -/
def quotedScalar (quote : CodePoint) (c : Cursor) : Scanned := quotedRest quote (c.rest.length + 1) c.next

/-! ## Blocks -/

/-- What becomes of the line breaks at the end of a block: one stays, none, or all. -/
inductive Chomping where
  | clip
  | strip
  | keep
deriving DecidableEq

/-- The chomping that a sign asks for. -/
def chomping? (c : Cursor) : Option Chomping :=
  if c.follows '+' then some .keep else if c.follows '-' then some .strip else none

/-- The digit for an indentation. -/
def indentDigit? (c : Cursor) : Option Nat := (c.peek?.filter CodePoint.isDigit).map CodePoint.digitValue

/-- The heading of a block: its chomping and the indentation that it gives, if it gives one. -/
def blockHeading (c : Cursor) : Except Error (Chomping × Option Nat × Cursor) :=
  let (sign, c) := match chomping? c with
    | some s => (some s, c.next)
    | none => (none, c)
  let (digit, c) := match indentDigit? c with
    | some d => (some d, c.next)
    | none => (none, c)
  let (sign, c) := match sign, digit, chomping? c with
    | none, some _, some s => (some s, c.next)
    | sign, _, _ => (sign, c)
  if digit = some 0 || !endsWord c.peek? then .error .malformed
  else c.finishLine.map fun c => (sign.getD .clip, digit, c)

/-- The empty lines before a block, with the widest indentation among them and the first line. -/
def blockStart : Nat → Nat → Cursor → Text × Nat × Cursor
  | 0, width, c => ([], width, c)
  | fuel + 1, width, c =>
    if c.follows ' ' then
      let c := c.next
      blockStart fuel (max width c.column) c
    else if c.atBreak then
      let (b, c) := c.lineBreak
      let (bs, width, c) := blockStart fuel width c
      (b ++ bs, width, c)
    else ([], width, c)

/-- The place behind the spaces that follow, as far as the given column. -/
def skipIndent (indent : Nat) (c : Cursor) : Cursor :=
  c.forward (min (indent - c.column) (c.rest.takeWhile (·.val = 0x20)).length)

/-- The empty lines that follow. -/
def blockBreaks (indent : Nat) : Nat → Cursor → Text × Cursor
  | 0, c => ([], c)
  | fuel + 1, c =>
    let c := skipIndent indent c
    if c.atBreak then
      let (b, c) := c.lineBreak
      let (bs, c) := blockBreaks indent fuel c
      (b ++ bs, c)
    else ([], c)

/-- Whether a line of a block follows. -/
def inBlock (indent : Nat) (c : Cursor) : Bool := c.column = indent && !c.rest.isEmpty

/-- The lines of a block that follow the empty lines `breaks`: the text, the line break at its end, and the empty lines
behind it. -/
def blockLines (folded : Bool) (indent : Nat) : Nat → Text → Cursor → Text × Text × Text × Cursor
  | 0, breaks, c => ([], [], breaks, c)
  | fuel + 1, breaks, c =>
    if !inBlock indent c then ([], [], breaks, c)
    else
      let leading := (c.peek?.map isBlank).getD false
      let (line, c) := c.takeWhile (!isBreak ·)
      let (b, c) := c.lineBreak
      let (after, c) := blockBreaks indent (c.rest.length + 1) c
      if inBlock indent c then
        let fold := folded && b = "\n" && !leading && !(c.peek?.map isBlank).getD false
        let joint : Text := if fold then (if after.isEmpty then " " else []) else b
        let (rest, last, tail, c) := blockLines folded indent fuel after c
        (breaks ++ line ++ joint ++ rest, last, tail, c)
      else (breaks ++ line, b, after, c)

/-- A block scalar inside the given indentation. -/
def blockScalar (folded : Bool) (indent : Int) (c : Cursor) : Scanned :=
  (blockHeading c.next).map fun (chomping, digit, c) =>
    let least := max 1 (indent + 1).toNat
    let fuel := c.rest.length + 1
    let (breaks, width, c) := match digit with
      | none =>
        let (breaks, width, c) := blockStart fuel 0 c
        (breaks, max least width, c)
      | some d =>
        let width := least + d - 1
        let (breaks, c) := blockBreaks width fuel c
        (breaks, width, c)
    let (text, last, tail, c) := blockLines folded width fuel breaks c
    (match chomping with
      | .strip => text
      | .clip => text ++ last
      | .keep => text ++ last ++ tail, c)

/-! ## Plain scalars -/

/-- How many code points of a plain scalar follow without white space. -/
def plainRun (flow : Bool) : Text → Nat
  | [] => 0
  | p :: t =>
    if isBlank p || isBreak p then 0
    else if p = ':' && (endsIndicator t.head? || (flow && (t.head?.map (isIn ",[]\x7b\x7d")).getD false)) then 0
    else if flow && isIn ",?[]\x7b\x7d" p then 0
    else plainRun flow t + 1

/-- The empty lines and spaces that follow a line break; nothing when the document ends between them. -/
def plainBreaks : Nat → Cursor → Option Text × Cursor
  | 0, c => (some [], c)
  | fuel + 1, c =>
    if c.follows ' ' then plainBreaks fuel c.next
    else if c.atBreak then
      let (b, c) := c.lineBreak
      if c.atSeparator then (none, c)
      else
        let (bs, c) := plainBreaks fuel c
        (bs.map (b ++ ·), c)
    else (some [], c)

/-- The white space behind a part of a plain scalar, with whether a line ended in it. -/
def plainSpace (c : Cursor) : Text × Bool × Cursor :=
  let (spaces, c) := c.takeWhile (·.val = 0x20)
  if c.atBreak then
    let (b, c) := c.lineBreak
    if c.atSeparator then ([], true, c)
    else
      let (bs, c) := plainBreaks (c.rest.length + 1) c
      ((bs.map (foldedBreak b)).getD [], true, c)
  else (spaces, false, c)

/-- A plain scalar behind the white space `before`, with whether a line ended behind it. -/
def plainRest (flow : Bool) (indent : Int) : Nat → Bool → Text → Cursor → Text × Bool × Cursor
  | 0, crossed, _, c => ([], crossed, c)
  | fuel + 1, crossed, before, c =>
    let n := if c.follows '#' then 0 else plainRun flow c.rest
    if n = 0 then ([], crossed, c)
    else
      let part := c.rest.take n
      let (space, crossed, c) := plainSpace (c.forward n)
      if space.isEmpty || c.follows '#' || (!flow && (c.column : Int) < indent + 1) then (before ++ part, crossed, c)
      else
        let (rest, crossed, c) := plainRest flow indent fuel crossed space c
        (before ++ part ++ rest, crossed, c)

/-- A plain scalar inside the given indentation, with whether a line ended behind it. -/
def plainScalar (flow : Bool) (indent : Int) (c : Cursor) : Text × Bool × Cursor :=
  plainRest flow indent (c.rest.length + 1) false [] c

end ContractBuild.Yaml
