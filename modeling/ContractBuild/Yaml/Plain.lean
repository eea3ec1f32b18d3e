import ContractBuild.Value.Basic
import ContractBuild.Yaml.Cursor

/-!
# Meanings of plain scalars

What a scalar without quotes stands for: null, a truth value, a number or a text. Integers are written in base ten,
two, eight, sixteen or sixty, with underscores between digits, and floating point numbers have a point. An exponent has a
sign. A date stays the text that it is written as.
-/

namespace ContractBuild.Yaml

/-- What a value is said to be. -/
inductive Tag where
  | null
  | bool
  | int
  | float
  | text
  | list
  | map
  | merge
  | value
  | unknown
deriving DecidableEq

/-- The part that the addresses of the known tags share. -/
def tagBase : Text := "tag:yaml.org,2002:"

/-- The names of the known tags. -/
def tagNames : List (Text × Tag) := [
  ("null", .null), ("bool", .bool), ("int", .int), ("float", .float), ("str", .text), ("seq", .list), ("map", .map),
  ("merge", .merge), ("value", .value)]

/-- The tag with an address. -/
def Tag.ofAddress (address : Text) : Tag :=
  ((address.dropPrefix? tagBase).bind fun name => tagNames.lookup name).getD .unknown

namespace Plain

/-! ## Shapes -/

/-- The words for true. -/
def trueWords : List Text := ["yes", "Yes", "YES", "true", "True", "TRUE", "on", "On", "ON"]

/-- The words for false. -/
def falseWords : List Text := ["no", "No", "NO", "false", "False", "FALSE", "off", "Off", "OFF"]

/-- The words for null. -/
def nullWords : List Text := ["", "~", "null", "Null", "NULL"]

/-- The words for infinity. -/
def infinityWords : List Text := [".inf", ".Inf", ".INF"]

/-- The words for what is no number. -/
def nanWords : List Text := [".nan", ".NaN", ".NAN"]

/-- The sign of a number and the rest; a missing sign is a plus. -/
def splitSign : Text → Bool × Text
  | [] => (false, [])
  | c :: t => if c = '-' then (true, t) else if c = '+' then (false, t) else (false, c :: t)

/-- The point before a fraction. -/
def point : CodePoint := '.'

/-- The underscore. -/
def underscore : CodePoint := '_'

/-- A digit or an underscore. -/
def isLoose (c : CodePoint) : Bool := c.isDigit || c = underscore

/-- A digit of base two, or an underscore. -/
def isBinary (c : CodePoint) : Bool := c = '0' || c = '1' || c = underscore

/-- A digit of base eight, or an underscore. -/
def isOctal (c : CodePoint) : Bool := (0x30 ≤ c.val && c.val ≤ 0x37) || c = underscore

/-- A digit of base sixteen, or an underscore. -/
def isHexadecimal (c : CodePoint) : Bool := c.hexValue?.isSome || c = underscore

/-- Whether a text is not empty and all its code points have a property. -/
def isRun (p : CodePoint → Bool) (t : Text) : Bool := !t.isEmpty && t.all p

/-- Whether a text is a digit other than zero, and then digits and underscores. -/
def isCount : Text → Bool
  | [] => false
  | c :: t => c.isDigit && c.val ≠ 0x30 && t.all isLoose

/-- Whether a text is a digit, and then digits and underscores. -/
def isNumeral : Text → Bool
  | [] => false
  | c :: t => c.isDigit && t.all isLoose

/-- Whether a text is a number below sixty with one or two digits. -/
def isSixtieth : Text → Bool
  | [c] => c.isDigit
  | [d, c] => 0x30 ≤ d.val && d.val ≤ 0x35 && c.isDigit
  | _ => false

/-- The parts between colons. -/
def parts (t : Text) : List Text := t.splitOn ':'

/-- The base and the digits of an integer without its sign; base sixty has its parts still to be split. -/
def integerDigits? (t : Text) : Option (Nat × Text) :=
  match t.dropPrefix? "0b", t.dropPrefix? "0x", t with
  | some digits, _, _ => if isRun isBinary digits then some (2, digits) else none
  | none, some digits, _ => if isRun isHexadecimal digits then some (16, digits) else none
  | none, none, c :: digits =>
    if c = '0' then
      if digits.isEmpty then some (10, t) else if isRun isOctal digits then some (8, digits) else none
    else if isCount t then some (10, t)
    else match parts t with
      | first :: second :: rest =>
        if isCount first && (second :: rest).all isSixtieth then some (60, t) else none
      | _ => none
  | _, _, _ => none

/-- The value of an exponent with its sign, behind the letter. -/
def exponent? (t : Text) : Option Int :=
  match t with
  | s :: digits =>
    if (s = '+' || s = '-') && isRun CodePoint.isDigit digits then
      some (if s = '-' then -(Text.toNat digits : Int) else Text.toNat digits)
    else none
  | [] => none

/-- Splits a fraction and its exponent. -/
def fraction? (t : Text) : Option (Text × Int) :=
  let digits := t.takeWhile isLoose
  match t.dropWhile isLoose with
  | [] => some (digits, 0)
  | e :: rest => if e = 'e' || e = 'E' then (exponent? rest).map fun n => (digits, n) else none

/-- A decimal number without its sign: the digits before the point, those behind it, and the exponent. -/
structure DecimalText where
  whole : Text
  fraction : Text
  exponent : Int

/-- The parts of a number with a point, without its sign. Before the point there is a digit, or there is no sign and a
digit behind it. -/
def decimal? (signed : Bool) (t : Text) : Option DecimalText :=
  let whole := t.takeWhile (· ≠ point)
  match t.dropWhile (· ≠ point) with
  | [] => none
  | _ :: rest =>
    if isNumeral whole then (fraction? rest).map fun (f, e) => ⟨whole, f, e⟩
    else if whole.isEmpty && !signed && isNumeral (rest.take 1) then (fraction? rest).map fun (f, e) => ⟨whole, f, e⟩
    else none

/-- The parts of a number in base sixty with a point: what stands before the last colon, and the rest. -/
def sixties? (t : Text) : Option (List Text × DecimalText) :=
  match (parts t).reverse with
  | last :: before =>
    match before.reverse, decimal? false last with
    | first :: middle, some d =>
      if isNumeral first && middle.all isSixtieth && isSixtieth d.whole && d.exponent = 0 &&
          (last.dropWhile (· ≠ point)).all (fun c => isLoose c || c = '.') then
        some (first :: middle, d)
      else none
    | _, _ => none
  | [] => none

/-! ## Values -/

/-- The digits without underscores. -/
def digitsOf (t : Text) : Text := t.filter (· ≠ underscore)

/-- The number that digits write. -/
def numberOf (base : Nat) (t : Text) : Nat := (digitsOf t).foldDigits base fun c => c.hexValue?.getD 0

/-- The number that parts in base sixty write. -/
def sixtiesOf (ts : List Text) : Nat := ts.foldl (fun n t => n * 60 + numberOf 10 t) 0

/-- The integer that a scalar writes. -/
def int? (t : Text) : Option Int :=
  let (negative, t) := splitSign t
  (integerDigits? t).map fun (base, digits) =>
    let n : Nat := if base = 60 then sixtiesOf (parts digits) else numberOf base digits
    if negative then -(n : Int) else n

/-- The floating point number with the given whole part in front of a decimal number. -/
def ofDecimalText (negative : Bool) (before : Nat) (d : DecimalText) : Binary64 :=
  let fraction := digitsOf d.fraction
  let scale := Nat.pow 10 fraction.length
  .ofDecimal negative ((before + numberOf 10 d.whole) * scale + numberOf 10 fraction) (d.exponent - fraction.length)

/-- The floating point number that a scalar writes. -/
def float? (t : Text) : Option Binary64 :=
  let (negative, rest) := splitSign t
  let signed := rest.length < t.length
  if rest ∈ infinityWords then some (.infinity negative)
  else if t ∈ nanWords then some .nan
  else match decimal? signed rest, sixties? rest with
    | some d, _ => some (ofDecimalText negative 0 d)
    | none, some (before, d) => some (ofDecimalText negative (sixtiesOf before * 60) d)
    | none, none => none

/-- What a plain scalar is. -/
def tagOf (t : Text) : Tag :=
  if t ∈ trueWords || t ∈ falseWords then .bool
  else if (float? t).isSome then .float
  else if (int? t).isSome then .int
  else if t = "<<" then .merge
  else if t ∈ nullWords then .null
  else if t = "=" then .value
  else .text

end Plain

/-- The value of a scalar with a tag. -/
def scalarValue (tag : Tag) (t : Text) : Except Error Value :=
  match tag with
  | .null => .ok .null
  | .bool =>
    if t ∈ Plain.trueWords then .ok (.bool true)
    else if t ∈ Plain.falseWords then .ok (.bool false)
    else .error .malformed
  | .int => match Plain.int? t with
    | some n => .ok (.int n)
    | none => .error .malformed
  | .float => match Plain.float? t, Plain.int? t with
    | some x, _ => .ok (.float x)
    | none, some n => .ok (.float (.ofRatio (n < 0) n.natAbs 1))
    | none, none => .error .malformed
  | .text => .ok (.text t)
  | _ => .error .malformed

end ContractBuild.Yaml
