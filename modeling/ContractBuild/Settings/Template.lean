import ContractBuild.Settings.Error
import ContractBuild.Text.Case
import ContractBuild.Text.Space
import ContractBuild.Text.Word

/-!
# Templates

A template is a text with fields: `%(name)s` stands for the field `name`, and flags, a width and a precision may come before
the letter, which says how the value is written. Two percent signs stand for one. A template is a list of pieces
(`Template.pieces`), and filling it takes them from left to right, so the first piece that cannot be filled decides the error.
-/

namespace ContractBuild.Settings.Template

/-! ## Pieces -/

/-- How a value is written. -/
structure Shape where
  left : Bool
  signed : Bool
  spaced : Bool
  marked : Bool
  zeros : Bool
  width : Nat
  precision : Option Nat
  letter : CodePoint

/-- What stands behind the name of a field: a shape, a count that would have to come from somewhere else, or something that
is no shape. -/
inductive Conversion where
  | shaped (shape : Shape)
  | counted
  | broken (error : Error)

/-- A piece of a template. A field without a name stands for all fields together. -/
inductive Piece where
  | point (c : CodePoint)
  | field (name : Option Text) (conversion : Conversion)
  | broken (error : Error)

/-- The number that ASCII digits at the start of `t` write, 0 without any, and the rest. -/
def leadingNumber (t : Text) : Nat × Text :=
  (Text.toNat (t.takeWhile CodePoint.isDigit), t.dropWhile CodePoint.isDigit)

/-- A flag. -/
def isFlag (c : CodePoint) : Bool := c = '-' || c = '+' || c = ' ' || c = '#' || c = '0'

/-- A letter that speaks of the size of a number and changes nothing. -/
def isSize (c : CodePoint) : Bool := c = 'h' || c = 'l' || c = 'L'

/-- Whether `t` starts with a star. -/
def isStarred (t : Text) : Bool := Text.startsWith t "*"

/-- `t` without a size letter at its start. -/
def skipSize (t : Text) : Text :=
  match t with
  | c :: rest => if isSize c then rest else t
  | [] => t

/-- The conversion at the start of `t`, and the rest. -/
def conversion (t : Text) : Conversion × Text :=
  let flags := t.takeWhile isFlag
  let t := t.dropWhile isFlag
  if isStarred t then (.counted, [])
  else
    let (width, t) := leadingNumber t
    let (precision, t) : Option Nat × Text := match t.dropPrefix? "." with
      | none => (none, t)
      | some rest => ((leadingNumber rest).1, (leadingNumber rest).2)
    if precision.isSome && isStarred t then (.counted, [])
    else match skipSize t with
      | [] => (.broken .incompleteFormat, [])
      | letter :: rest =>
        let has (flag : CodePoint) : Bool := flags.elem flag
        (.shaped ⟨has '-', has '+', has ' ', has '#', has '0', width, precision, letter⟩, rest)

/-- The name of a field up to its closing parenthesis, and the rest. Parentheses inside the name are balanced; `depth`
counts the open ones. -/
def nameAndRest? (depth : Nat) : Text → Option (Text × Text)
  | [] => none
  | c :: t =>
    let depth' := if c = '(' then depth + 1 else if c = ')' then depth - 1 else depth
    if depth' = 0 then some ([], t) else (nameAndRest? depth' t).map fun (name, rest) => (c :: name, rest)

/-- The piece behind a percent sign, and the rest. -/
def pieceAt (t : Text) : Piece × Text :=
  match t.dropPrefix? "%", t.dropPrefix? "(" with
  | some rest, _ => (.point '%', rest)
  | none, some inner =>
    match nameAndRest? 1 inner with
    | none => (.broken .incompleteField, [])
    | some (name, rest) => ((.field name (conversion rest).1), (conversion rest).2)
  | none, none => (.field none (conversion t).1, (conversion t).2)

/-- The pieces of a template, each with the length of the template behind it; `fuel` is at least the length. -/
def piecesFrom : Nat → Text → List (Piece × Nat)
  | 0, _ => []
  | _ + 1, [] => []
  | fuel + 1, c :: t =>
    if c = '%' then
      let (piece, rest) := pieceAt t
      (piece, rest.length) :: piecesFrom fuel rest
    else (.point c, t.length) :: piecesFrom fuel t

/-- The pieces of a template. -/
def pieces (t : Text) : List (Piece × Nat) := piecesFrom t.length t

/-! ## Numbers -/

/-- A text with spaces up to the width. -/
def Shape.justify (s : Shape) (t : Text) : Text :=
  if s.left then t.padRight s.width ' ' else t.padLeft s.width ' '

/-- A number, given what stands before its digits, with spaces or zeros up to the width. -/
def Shape.number (s : Shape) (negative : Bool) (mark digits : Text) : Text :=
  let sign : Text := if negative then "-" else if s.signed then "+" else if s.spaced then " " else []
  let before := sign ++ mark
  if s.zeros && !s.left then before ++ digits.padLeft (s.width - before.length) '0'
  else s.justify (before ++ digits)

/-- The digits of a number in a base, at least as many as the precision asks for. -/
def Shape.digits (s : Shape) (base n : Nat) : Text :=
  Text.padLeft (Text.ofChars (Nat.toDigits base n)) (s.precision.getD 0) '0'

/-- The fraction of a number: a point and digits, nothing when there are none and the shape does not ask for the point. -/
def Shape.fraction (s : Shape) (digits : Text) : Text :=
  if digits.isEmpty && !s.marked then [] else "." ++ digits

/-- The digits of `n` rounded to `count` of them, and the exponent of the first one. -/
def leadingDigits (n count : Nat) : Text × Nat :=
  let all := Text.ofNat n
  let kept := if all.length ≤ count then n * Nat.pow 10 (count - all.length)
    else Binary64.roundHalfEven n (Nat.pow 10 (all.length - count))
  if kept < Nat.pow 10 count then (Text.padLeft (Text.ofNat kept) count '0', all.length - 1)
  else (Text.ofNat (kept / 10), all.length)

/-- An exponent. -/
def exponent (n : Nat) : Text := "e+" ++ Text.padLeft (Text.ofNat n) 2 '0'

/-- The places that a floating point number has when no precision is given. -/
def defaultPlaces : Nat := 6

/-- The digits of `n` with a fixed number of places. -/
def Shape.fixed (s : Shape) (n : Nat) : Text :=
  Text.ofNat n ++ s.fraction (Text.copies (s.precision.getD defaultPlaces) '0')

/-- The digits of `n` with one digit before the point, and an exponent. -/
def Shape.scientific (s : Shape) (n : Nat) : Text :=
  let (ds, e) := leadingDigits n (s.precision.getD defaultPlaces + 1)
  ds.take 1 ++ s.fraction (ds.drop 1) ++ exponent e

/-- The digits of `n`, at most as many as the precision says, with an exponent when the number is longer. -/
def Shape.general (s : Shape) (n : Nat) : Text :=
  let count := max 1 (s.precision.getD defaultPlaces)
  let (ds, e) := leadingDigits n count
  let places (t : Text) : Text := s.fraction (if s.marked then t else Text.dropTrailing '0' t)
  if e < count then ds.take (e + 1) ++ places (ds.drop (e + 1)) else ds.take 1 ++ places (ds.drop 1) ++ exponent e

/-! ## Values -/

/-- The integer of a value that is one. -/
def integer? : Value → Option Int
  | .int n => some n
  | .bool b => some (if b then 1 else 0)
  | _ => none

/-- A text in ASCII: other code points are escaped. -/
def asciiOnly (t : Text) : Text :=
  t.replaceEach fun c =>
    if c.val < 0x80 then none
    else if c.val < 0x100 then some ("\\x" ++ Text.hex 2 c.val)
    else if c.val < 0x10000 then some ("\\u" ++ Text.hex 4 c.val)
    else some ("\\U" ++ Text.hex 8 c.val)

/-- A text cut to the precision, with spaces up to the width. -/
def Shape.text (s : Shape) (t : Text) : Text :=
  s.justify (match s.precision with
    | none => t
    | some n => t.take n)

/-- A character, given by its number or as a text. -/
def character : Value → Except Error Text
  | .text [c] => .ok [c]
  | .int n => if 0 ≤ n && n < 0x110000 then .ok [CodePoint.ofNat n.toNat] else .error .noCodePoint
  | _ => .error .noCharacter

/-- A value that has to be an integer, with the mark of its base and its digits. -/
def Shape.integer (s : Shape) (base : Nat) (mark : Text) (upper : Bool) (needed : Text) (v : Value) :
    Except Error Text :=
  match integer? v with
  | none => .error (.wrongArgument ("%" ++ s.letter :: (" format: " ++ needed ++ " is required")) v)
  | some n =>
    let shown (t : Text) : Text := if upper then t.upper else t
    .ok (s.number (n < 0) (if s.marked then shown mark else []) (shown (s.digits base n.natAbs)))

/-- A value that has to be a number, written as a floating point number. -/
def Shape.real (s : Shape) (upper : Bool) (digits : Nat → Text) (v : Value) : Except Error Text :=
  match integer? v with
  | none => .error (.wrongArgument "must be real number" v)
  | some n => .ok (s.number (n < 0) [] (if upper then (digits n.natAbs).upper else digits n.natAbs))

/-- A value in a shape; `place` is where the letter stands in the template. -/
def Shape.write (s : Shape) (place : Nat) (v : Value) : Except Error Text :=
  match s.letter.toChar with
  | 's' => .ok (s.text v.display)
  | 'r' => .ok (s.text v.shown)
  | 'a' => .ok (s.text (asciiOnly v.shown))
  | 'c' => (character v).map s.justify
  | 'd' | 'i' | 'u' => s.integer 10 [] false "a real number" v
  | 'o' => s.integer 8 "0o" false "an integer" v
  | 'x' => s.integer 16 "0x" false "an integer" v
  | 'X' => s.integer 16 "0x" true "an integer" v
  | 'f' => s.real false s.fixed v
  | 'F' => s.real true s.fixed v
  | 'e' => s.real false s.scientific v
  | 'E' => s.real true s.scientific v
  | 'g' => s.real false s.general v
  | 'G' => s.real true s.general v
  | _ => .error (.unsupportedLetter s.letter place)

/-- A value under a conversion. -/
def Conversion.write (place : Nat) (v : Value) : Conversion → Except Error Text
  | .shaped s => s.write place v
  | .counted => .error (if (integer? v).isSome then .tooFewArguments else .countNoInteger)
  | .broken e => .error e

/-! ## Filling -/

/-- A piece with its value; `place` is where its last code point stands. -/
def Piece.write (fields : List (Text × Value)) (place : Nat) : Piece → Except Error Text
  | .point c => .ok [c]
  | .broken e => .error e
  | .field none conversion => conversion.write place (.map fields)
  | .field (some name) conversion =>
    match Value.entry? name fields with
    | none => .error (.unknownField name)
    | some v => conversion.write place v

/-- The template with the values of its fields. -/
def fill (fields : List (Text × Value)) (template : Text) : Except Error Text :=
  let written (p : Piece × Nat) : Except Error Text := p.1.write fields (template.length - p.2 - 1)
  ((pieces template).mapM written).map List.flatten

/-! ## Fields that a template has -/

/-- A star or digits of any script at the start of `t` are left out. -/
def skipCount (t : Text) : Text :=
  match t.dropPrefix? "*" with
  | some rest => rest
  | none => t.dropWhile CodePoint.isDecimal

/-- A letter that a field may end with, without regard to case. -/
def isLetter (c : CodePoint) : Bool := Text.contains "diouxefgcrsa%" [c.folded]

/-- Whether `t` begins with what may stand behind the name of a field. -/
def hasShape (t : Text) : Bool :=
  let t := skipCount (t.dropWhile isFlag)
  let t := match t.dropPrefix? "." with
    | some rest => if (skipCount rest).length < rest.length then skipCount rest else t
    | none => t
  (t.head?.map isLetter).getD false

/-- Whether `t` begins with a field. -/
def beginsWithField (t : Text) : Bool :=
  match t.dropPrefix? "%(" with
  | none => false
  | some rest =>
    let name := rest.takeWhile CodePoint.isWord
    match Text.dropPrefix? (rest.dropWhile CodePoint.isWord) ")" with
    | none => false
    | some t => name ≠ [] && hasShape t

/-- Whether a template has a field. -/
def hasField (t : Text) : Bool := (t.firstSuffix? fun t => if beginsWithField t then some () else none).isSome

end ContractBuild.Settings.Template
