import ContractBuild.Text.Word

/-!
# Colours

The codes that colour what follows them on a terminal. `Colour.strip` takes all such codes out of a text, with the marks
that may enclose them.
-/

namespace ContractBuild.Colour

def red : Text := "\x1b[31m"
def green : Text := "\x1b[32m"
def yellow : Text := "\x1b[33m"
def cyan : Text := "\x1b[36m"
def white : Text := "\x1b[37m"
def bright : Text := "\x1b[1m"
def dim : Text := "\x1b[2m"

/-- The end of all colours. -/
def reset : Text := "\x1b[0m"

/-- A text between a colour and the end of colours. -/
def paint (colour t : Text) : Text := colour ++ t ++ reset

/-! ## Texts without codes -/

/-- A part of the numbers of a code. -/
def isNumberPart (c : CodePoint) : Bool := c.isDecimal || c = ';'

/-- The rest of `t` behind a code at its start: numbers with semicolons between them, and a letter. -/
def afterCode? (t : Text) : Option Text :=
  match (Text.skipOptional "\x01" t).dropPrefix? "\x1b[" with
  | none => none
  | some rest =>
    match rest.dropWhile isNumberPart with
    | [] => none
    | letter :: rest => if letter.isLetter then some (Text.skipOptional "\x02" rest) else none

/-- The length of the code at the start of `t`, 0 when there is none. -/
def codeLength (t : Text) : Nat :=
  match afterCode? t with
  | none => 0
  | some rest => t.length - rest.length

/-- `t` without codes, where the first `skipped` code points belong to one. -/
def stripFrom (skipped : Nat) : Text → Text
  | [] => []
  | c :: t =>
    match skipped, codeLength (c :: t) with
    | n + 1, _ => stripFrom n t
    | 0, n + 1 => stripFrom n t
    | 0, 0 => c :: stripFrom 0 t

/-- `t` without codes. -/
def strip (t : Text) : Text := stripFrom 0 t

end ContractBuild.Colour
