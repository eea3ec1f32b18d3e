import ContractBuild.Settings.Error
import ContractBuild.Text.Space
import ContractBuild.Text.Word

/-!
# Integers in settings

A setting that has to be an integer may be a truth value, a number, which is cut towards zero, or a text. A text has decimal
digits of any script, with a sign before them, single underscores between them and white space around them.
-/

namespace ContractBuild.Settings

/-- The most digits that a text may have. -/
def maxDigits : Nat := 4300

/-- White space around an integer. The separators U+001C to U+001F do not count. -/
def isPadding (c : CodePoint) : Bool := c.isSpace && !(0x1C ≤ c.val && c.val ≤ 0x1F)

/-- A text without the padding at both ends. -/
def unpadded (t : Text) : Text := ((t.dropWhile isPadding).reverse.dropWhile isPadding).reverse

/-- Whether a text is an underscore. -/
def isJoint (c : CodePoint) : Bool := c.val = 0x5F

/-- The values of digits, between which single underscores may stand. -/
def digitValues? : Text → Option (List Nat)
  | [] => none
  | [c] => c.decimalValue?.map ([·])
  | c :: d :: t =>
    match c.decimalValue? with
    | none => none
    | some n => (if isJoint d then digitValues? t else digitValues? (d :: t)).map (n :: ·)

/-- The sign of a number and the rest. -/
def splitSign : Text → Bool × Text
  | [] => (false, [])
  | c :: t => if c = '-' then (true, t) else if c = '+' then (false, t) else (false, c :: t)

/-- The integer that a text writes. -/
def integerOfText (t : Text) : Except Error Int :=
  let (negative, digits) := splitSign (unpadded t)
  match digitValues? digits with
  | none => .error (.notInteger t)
  | some ns =>
    if ns.length > maxDigits then .error (.tooManyDigits ns.length)
    else
      let n : Nat := ns.foldl (fun n d => n * 10 + d) 0
      .ok (if negative then -(n : Int) else n)

/-- The integer that a value stands for. -/
def integer : Value → Except Error Int
  | .bool b => .ok (if b then 1 else 0)
  | .int n => .ok n
  | .float x => if x.isNaN then .error .notANumber else if x.isSpecial then .error .infinite else .ok x.truncate
  | .text t => integerOfText t
  | v => .error (.notNumber v)

end ContractBuild.Settings
