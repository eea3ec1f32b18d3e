import ContractBuild.Text.Basic
import ContractBuild.Value.Basic

/-!
# Reading JSON

A reader by recursive descent. Besides the standard grammar it takes `NaN`, `Infinity` and `-Infinity`; of two entries
with one key the later one decides. A number with a fraction or an exponent is a floating point number, any other one an
integer, which may have at most `maxDigits` digits. Half of a surrogate pair may be written as an escape.

Lists and maps may be nested `maxDepth` deep. What is deeper is a fault of its own, found where the reader meets it, so
a malformed part before it is reported first.

The fuel of the mutual recursion is one more than the length of the text, and every call takes a code point or is made
once for each (`Json.parse`).
-/

namespace ContractBuild.Json

/-- Why a text cannot be read. -/
inductive Error where
  | malformed
  | tooDeep
deriving DecidableEq

/-- How deep lists and maps may be nested: a fixed number in place of the room that is left for nested calls. -/
def maxDepth : Nat := 990

/-- How many digits an integer may have. -/
def maxDigits : Nat := 4300

/-- White space between the parts of a document. -/
def isSpace (c : CodePoint) : Bool := c.val = 0x20 || c.val = 0x09 || c.val = 0x0A || c.val = 0x0D

/-- The text without the white space at its start. -/
def skipSpace (t : Text) : Text := t.dropWhile isSpace

/-- The code point of an escape with one letter. -/
def escaped? (c : CodePoint) : Option CodePoint :=
  if c = '"' || c = '\\' || c = '/' then some c
  else if c = 'b' then some (CodePoint.ofNat 0x08)
  else if c = 'f' then some (CodePoint.ofNat 0x0C)
  else if c = 'n' then some '\n'
  else if c = 'r' then some '\r'
  else if c = 't' then some '\t'
  else none

/-- The code point with four hexadecimal digits. -/
def hexPoint? (a b c d : CodePoint) : Option CodePoint := do
  let a ← a.hexValue?
  let b ← b.hexValue?
  let c ← c.hexValue?
  let d ← d.hexValue?
  pure (CodePoint.ofNat (((a * 16 + b) * 16 + c) * 16 + d))

/-- The text between quotes and what follows the closing one. -/
def stringBody : Text → Option (Text × Text)
  | [] => none
  | c :: t =>
    if c = '"' then some ([], t)
    else if c = '\\' then
      match t with
      | [] => none
      | e :: t =>
        if e = 'u' then
          match t with
          | a :: b :: c :: d :: t =>
            match hexPoint? a b c d with
            | none => none
            | some high =>
              match t with
              | s :: u :: a :: b :: c :: d :: t' =>
                if high.isHighSurrogate && s = '\\' && u = 'u' then
                  match hexPoint? a b c d with
                  | none => none
                  | some low =>
                    if low.isLowSurrogate then
                      (stringBody t').map fun r => (CodePoint.ofSurrogates high low :: r.1, r.2)
                    else (stringBody (s :: u :: a :: b :: c :: d :: t')).map fun r => (high :: r.1, r.2)
                else (stringBody (s :: u :: a :: b :: c :: d :: t')).map fun r => (high :: r.1, r.2)
              | t => (stringBody t).map fun r => (high :: r.1, r.2)
          | _ => none
        else match escaped? e with
          | none => none
          | some p => (stringBody t).map fun r => (p :: r.1, r.2)
    else if c.val < 0x20 then none
    else (stringBody t).map fun r => (c :: r.1, r.2)

/-- The digits at the start of a text and the rest. -/
def spanDigits (t : Text) : Text × Text := t.span CodePoint.isDigit

/-- The digits of an integer part, where a zero stands alone. -/
def integerPart? (t : Text) : Option (Text × Text) :=
  match t with
  | [] => none
  | c :: rest => if c = '0' then some ([c], rest) else if c.isDigit then some (spanDigits t) else none

/-- The digits of a fraction, when there is one. -/
def fractionPart? : Text → Option (Text × Text)
  | [] => none
  | c :: t =>
    if c = '.' then
      match spanDigits t with
      | ([], _) => none
      | part => some part
    else none

/-- The exponent, when there is one. -/
def exponentPart? : Text → Option (Int × Text)
  | [] => none
  | c :: t =>
    if c = 'e' || c = 'E' then
      let (negative, t) : Bool × Text := match t with
        | s :: t' => if s = '-' then (true, t') else if s = '+' then (false, t') else (false, t)
        | [] => (false, [])
      match spanDigits t with
      | ([], _) => none
      | (digits, rest) =>
        let n : Int := (Text.toNat digits : Nat)
        some (if negative then -n else n, rest)
    else none

/-- The number at the start of a text without its sign. -/
def magnitude? (negative : Bool) (t : Text) : Option (Value × Text) :=
  match integerPart? t with
  | none => none
  | some (whole, t) =>
    let (fraction, t) := (fractionPart? t).map (fun p => (some p.1, p.2)) |>.getD (none, t)
    let (exponent, t) := (exponentPart? t).map (fun p => (some p.1, p.2)) |>.getD (none, t)
    if fraction.isNone && exponent.isNone then
      if maxDigits < whole.length then none
      else
        let n : Int := (Text.toNat whole : Nat)
        some (.int (if negative then -n else n), t)
    else
      let places := fraction.getD []
      some (.float (Binary64.ofDecimal negative (Text.toNat (whole ++ places)) (exponent.getD 0 - places.length)), t)

/-- A literal at the start of a text, with its value. -/
def literals : List (Text × Value) := [
  ("null", .null), ("true", .bool true), ("false", .bool false), ("NaN", .float .nan),
  ("Infinity", .float (.infinity false)), ("-Infinity", .float (.infinity true))]

/-- A literal or a number at the start of a text. -/
def scalar? (t : Text) : Option (Value × Text) :=
  match literals.findSome? fun l => (Text.dropPrefix? t l.1).map fun rest => (l.2, rest) with
  | some r => some r
  | none =>
    match t with
    | [] => none
    | c :: rest => if c = '-' then magnitude? true rest else magnitude? false t

mutual

/-- The value at the start of a text and what follows it, where `depth` more lists and maps may be nested. -/
def value (fuel depth : Nat) (t : Text) : Except Error (Value × Text) :=
  match fuel with
  | 0 => .error .malformed
  | fuel + 1 =>
    match t with
    | [] => .error .malformed
    | c :: rest =>
      if c = '"' then
        match stringBody rest with
        | some (s, rest) => .ok (.text s, rest)
        | none => .error .malformed
      else if c = '[' then
        match depth with
        | 0 => .error .tooDeep
        | depth + 1 =>
          match skipSpace rest with
          | [] => .error .malformed
          | d :: rest' =>
            if d = ']' then .ok (.list [], rest')
            else (items fuel depth (d :: rest')).map fun r => (.list r.1, r.2)
      else if c = '\x7b' then
        match depth with
        | 0 => .error .tooDeep
        | depth + 1 =>
          match skipSpace rest with
          | [] => .error .malformed
          | d :: rest' =>
            if d = '\x7d' then .ok (.map [], rest')
            else (bindings fuel depth (d :: rest')).map fun r => (.map (Value.ofBindings r.1), r.2)
      else match scalar? (c :: rest) with
        | some r => .ok r
        | none => .error .malformed
termination_by structural fuel

/-- The items of a list up to its closing bracket, at least one. -/
def items (fuel depth : Nat) (t : Text) : Except Error (List Value × Text) :=
  match fuel with
  | 0 => .error .malformed
  | fuel + 1 =>
    match value fuel depth t with
    | .error e => .error e
    | .ok (v, rest) =>
      match skipSpace rest with
      | [] => .error .malformed
      | c :: rest =>
        if c = ']' then .ok ([v], rest)
        else if c = ',' then (items fuel depth (skipSpace rest)).map fun r => (v :: r.1, r.2)
        else .error .malformed
termination_by structural fuel

/-- The entries of a map up to its closing brace, at least one. -/
def bindings (fuel depth : Nat) (t : Text) : Except Error (List (Text × Value) × Text) :=
  match fuel with
  | 0 => .error .malformed
  | fuel + 1 =>
    match t with
    | [] => .error .malformed
    | q :: rest =>
      if q = '"' then
        match stringBody rest with
        | none => .error .malformed
        | some (key, rest) =>
          match skipSpace rest with
          | [] => .error .malformed
          | c :: rest =>
            if c = ':' then
              match value fuel depth (skipSpace rest) with
              | .error e => .error e
              | .ok (v, rest) =>
                match skipSpace rest with
                | [] => .error .malformed
                | c :: rest =>
                  if c = '\x7d' then .ok ([(key, v)], rest)
                  else if c = ',' then
                    (bindings fuel depth (skipSpace rest)).map fun r => ((key, v) :: r.1, r.2)
                  else .error .malformed
            else .error .malformed
      else .error .malformed
termination_by structural fuel

end

/-- The value that a text writes, with nothing but white space around it. -/
def parse (t : Text) : Except Error Value :=
  match value (t.length + 1) maxDepth (skipSpace t) with
  | .error e => .error e
  | .ok (v, rest) => if (skipSpace rest).isEmpty then .ok v else .error .malformed

end ContractBuild.Json
