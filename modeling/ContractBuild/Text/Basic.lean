/-!
# Text

A text is a list of code points. Surrogates are code points too: an escape in a message can name half of a pair, and
such a text has to be kept and written back as it came.

Literals are texts by coercion, and `Text.ofNat` and `Text.ofInt` write numbers in base ten. A text is searched with
`Text.dropPrefix?` at its start and with `Text.after?` at the leftmost place where a phrase occurs.
-/

namespace ContractBuild

/-- A Unicode code point, surrogates included. -/
@[ext] structure CodePoint where
  val : Nat
  isLt : val < 0x110000
deriving DecidableEq

namespace CodePoint

/-- The code point of a character. -/
def ofChar (c : Char) : CodePoint :=
  ⟨c.val.toNat, by rcases c.valid with h | ⟨_, h⟩ <;> omega⟩

instance : Coe Char CodePoint := ⟨ofChar⟩

/-- U+FFFD, which stands for what could not be read. -/
def replacement : CodePoint := ⟨0xFFFD, by decide⟩

/-- The code point with number `n`, and U+FFFD when there is none. -/
def ofNat (n : Nat) : CodePoint :=
  if h : n < 0x110000 then ⟨n, h⟩ else replacement

instance : Inhabited CodePoint := ⟨replacement⟩

theorem val_ofNat {n : Nat} (h : n < 0x110000) : (ofNat n).val = n := by simp [ofNat, h]

theorem ofNat_val (c : CodePoint) : ofNat c.val = c := by simp [ofNat, c.isLt]

/-- The first half of a surrogate pair. -/
def isHighSurrogate (c : CodePoint) : Bool := 0xD800 ≤ c.val && c.val < 0xDC00

/-- The second half of a surrogate pair. -/
def isLowSurrogate (c : CodePoint) : Bool := 0xDC00 ≤ c.val && c.val < 0xE000

/-- Half of a surrogate pair. -/
def isSurrogate (c : CodePoint) : Bool := 0xD800 ≤ c.val && c.val < 0xE000

/-- The code point that a surrogate pair stands for. -/
def ofSurrogates (high low : CodePoint) : CodePoint :=
  ofNat (0x10000 + (high.val - 0xD800) * 0x400 + (low.val - 0xDC00))

/-- An ASCII digit. -/
def isDigit (c : CodePoint) : Bool := 0x30 ≤ c.val && c.val ≤ 0x39

/-- The value of an ASCII digit. -/
def digitValue (c : CodePoint) : Nat := c.val - 0x30

/-- The value of a hexadecimal digit. -/
def hexValue? (c : CodePoint) : Option Nat :=
  if c.isDigit then some c.digitValue
  else if 0x61 ≤ c.val && c.val ≤ 0x66 then some (c.val - 0x57)
  else if 0x41 ≤ c.val && c.val ≤ 0x46 then some (c.val - 0x37)
  else none

/-- An ASCII letter. -/
def isLetter (c : CodePoint) : Bool := (0x41 ≤ c.val && c.val ≤ 0x5A) || (0x61 ≤ c.val && c.val ≤ 0x7A)

/-- The character, U+FFFD for a surrogate. -/
def toChar (c : CodePoint) : Char :=
  if c.isSurrogate then Char.ofNat 0xFFFD else Char.ofNat c.val

end CodePoint

/-- A text: code points in order. -/
abbrev Text := List CodePoint

namespace Text

/-- The text of a string. -/
def ofString (s : String) : Text := s.toList.map CodePoint.ofChar

instance : Coe String Text := ⟨ofString⟩

/-- The string of a text, with U+FFFD for each surrogate. -/
def toString (t : Text) : String := String.ofList (t.map CodePoint.toChar)

/-- The text of a list of characters. -/
def ofChars (cs : List Char) : Text := cs.map CodePoint.ofChar

/-- A natural number in base ten. -/
def ofNat (n : Nat) : Text := ofChars (Nat.toDigits 10 n)

/-- An integer in base ten, with a minus sign when it is negative. -/
def ofInt : Int → Text
  | .ofNat n => ofNat n
  | .negSucc n => "-" ++ ofNat (n + 1)

/-- The number that the digits of `t` write in base `base`, given the value of each digit. -/
def foldDigits (base : Nat) (value : CodePoint → Nat) (t : Text) : Nat :=
  t.foldl (fun n c => n * base + value c) 0

/-- The number that ASCII digits write in base ten. -/
def toNat (t : Text) : Nat := foldDigits 10 CodePoint.digitValue t

/-- The rest of `t` behind `p`, when `t` starts with `p`. -/
def dropPrefix? : Text → Text → Option Text
  | t, [] => some t
  | [], _ :: _ => none
  | c :: t, d :: p => if c = d then dropPrefix? t p else none

/-- The rest of `t` behind `p`, all of `t` when it does not start with `p`. -/
def skipOptional (p t : Text) : Text := (t.dropPrefix? p).getD t

/-- Whether `t` starts with `p`. -/
def startsWith (t p : Text) : Bool := (dropPrefix? t p).isSome

/-- Whether `t` ends with `p`. -/
def endsWith (t p : Text) : Bool := startsWith t.reverse p.reverse

/-- The first `some` that `f` gives on `t`, on `t` without its first code point, and so on. -/
def firstSuffix? {α : Type} (f : Text → Option α) : Text → Option α
  | [] => f []
  | c :: t =>
    match f (c :: t) with
    | some a => some a
    | none => firstSuffix? f t

/-- The rest of `t` behind the leftmost occurrence of `p`. -/
def after? (p : Text) (t : Text) : Option Text := firstSuffix? (dropPrefix? · p) t

/-- Whether `p` occurs in `t`. -/
def contains (t p : Text) : Bool := (after? p t).isSome

/-- The texts in order with `separator` between neighbours. -/
def joinWith (separator : Text) (ts : List Text) : Text := List.intercalate separator ts

/-- `n` copies of a code point. -/
def copies (n : Nat) (c : CodePoint) : Text := List.replicate n c

/-- `t` with copies of `c` behind it up to a length of `n`. -/
def padRight (t : Text) (n : Nat) (c : CodePoint) : Text := t ++ copies (n - t.length) c

/-- `t` with copies of `c` before it up to a length of `n`. -/
def padLeft (t : Text) (n : Nat) (c : CodePoint) : Text := copies (n - t.length) c ++ t

/-- `t` with each of its code points in the place of which `f` gives something replaced. -/
def replaceEach (f : CodePoint → Option Text) (t : Text) : Text :=
  t.flatMap fun c => (f c).getD [c]

/-- The order of texts by code points. -/
def lt (a b : Text) : Bool := decide (a.map CodePoint.val < b.map CodePoint.val)

end Text

end ContractBuild
