import ContractBuild.Text.Basic

/-!
# UTF-8

A reader of UTF-8 takes one byte at a time. What cannot be read becomes U+FFFD, one for each maximal prefix of a valid
sequence; the byte that shows a sequence to be broken is then read afresh. The first two bytes of a surrogate, which is
no character, are held until the next byte and then give two of them. Reading is a fold, so it does not matter how the
bytes are cut into chunks (`Utf8.readAll_append`).

`Utf8.encode` writes a text, and `Utf8.decodeStrict` reads one that has to be valid throughout, naming the first fault.
-/

namespace ContractBuild

/-- A sequence of bytes. -/
abbrev Bytes := List UInt8

namespace Utf8

/-- What a reader keeps between two bytes: nothing; the bits so far, the number of bytes to come, and the bounds of the
next one; or that it has read the first two bytes of a surrogate. -/
inductive State where
  | start
  | inside (bits : Nat) (missing : Nat) (low high : Nat)
  | surrogate
deriving DecidableEq

/-- The state behind a lead byte, `none` for an invalid one; an ASCII byte leads nothing. -/
def lead? (b : Nat) : Option State :=
  if 0xC2 ≤ b && b ≤ 0xDF then some (.inside (b - 0xC0) 1 0x80 0xBF)
  else if b = 0xE0 then some (.inside 0 2 0xA0 0xBF)
  else if b = 0xED then some (.inside 0xD 2 0x80 0x9F)
  else if 0xE1 ≤ b && b ≤ 0xEF then some (.inside (b - 0xE0) 2 0x80 0xBF)
  else if b = 0xF0 then some (.inside 0 3 0x90 0xBF)
  else if 0xF1 ≤ b && b ≤ 0xF3 then some (.inside (b - 0xF0) 3 0x80 0xBF)
  else if b = 0xF4 then some (.inside 4 3 0x80 0x8F)
  else none

/-- Reads a byte between two sequences. -/
def readFirst (b : Nat) : Text × State :=
  if b < 0x80 then ([CodePoint.ofNat b], .start)
  else match lead? b with
    | some s => ([], s)
    | none => ([.replacement], .start)

/-- Reads a byte. -/
def read : State → UInt8 → Text × State
  | .start, b => readFirst b.toNat
  | .inside bits missing low high, b =>
    let n := b.toNat
    if low ≤ n && n ≤ high then
      let bits' := bits * 0x40 + (n - 0x80)
      if missing ≤ 1 then ([CodePoint.ofNat bits'], .start) else ([], .inside bits' (missing - 1) 0x80 0xBF)
    else if high = 0x9F && 0xA0 ≤ n && n ≤ 0xBF then ([], .surrogate)
    else
      let (t, s) := readFirst n
      (.replacement :: t, s)
  | .surrogate, b =>
    let (t, s) := readFirst b.toNat
    (.replacement :: .replacement :: t, s)

/-- Reads bytes in order. -/
def readAll : State → Bytes → Text × State
  | s, [] => ([], s)
  | s, b :: bs =>
    let (t, s') := read s b
    let (u, s'') := readAll s' bs
    (t ++ u, s'')

/-- What the end of the bytes adds. -/
def State.flush : State → Text
  | .start => []
  | .inside .. => [.replacement]
  | .surrogate => [.replacement, .replacement]

/-- The text of bytes that are at hand as a whole. -/
def decode (bs : Bytes) : Text :=
  let (t, s) := readAll .start bs
  t ++ s.flush

theorem readAll_append (s : State) (as bs : Bytes) :
    readAll s (as ++ bs) =
      ((readAll s as).1 ++ (readAll (readAll s as).2 bs).1, (readAll (readAll s as).2 bs).2) := by
  induction as generalizing s with
  | nil => simp [readAll]
  | cons a as ih => simp [readAll, ih, List.append_assoc]

/-- The bytes of a code point. -/
def encodePoint (c : CodePoint) : Bytes :=
  let n := c.val
  if n < 0x80 then [n.toUInt8]
  else if n < 0x800 then [(0xC0 + n / 0x40).toUInt8, (0x80 + n % 0x40).toUInt8]
  else if n < 0x10000 then
    [(0xE0 + n / 0x1000).toUInt8, (0x80 + n / 0x40 % 0x40).toUInt8, (0x80 + n % 0x40).toUInt8]
  else
    [(0xF0 + n / 0x40000).toUInt8, (0x80 + n / 0x1000 % 0x40).toUInt8, (0x80 + n / 0x40 % 0x40).toUInt8,
      (0x80 + n % 0x40).toUInt8]

/-- The bytes of a text. -/
def encode (t : Text) : Bytes := t.flatMap encodePoint

/-- Why bytes are not UTF-8. -/
inductive Reason where
  | invalidStart
  | invalidContinuation
  | unexpectedEnd
deriving DecidableEq

/-- The first fault of bytes that should be UTF-8: the first byte it concerns, with its position, and how many bytes it
covers. -/
structure Fault where
  byte : UInt8
  position : Nat
  length : Nat
  reason : Reason
deriving DecidableEq

/-- The wording of a reason. -/
def Reason.message : Reason → Text
  | .invalidStart => "invalid start byte"
  | .invalidContinuation => "invalid continuation byte"
  | .unexpectedEnd => "unexpected end of data"

/-- A byte as two hexadecimal digits. -/
def hexByte (b : UInt8) : Text :=
  Text.padLeft (Text.ofChars (Nat.toDigits 16 b.toNat)) 2 '0'

/-- The wording of a fault. -/
def Fault.message (f : Fault) : Text :=
  let place : Text :=
    if f.length ≤ 1 then "byte 0x" ++ hexByte f.byte ++ " in position " ++ Text.ofNat f.position
    else "bytes in position " ++ Text.ofNat f.position ++ "-" ++
      Text.ofNat (f.position + f.length - 1)
  "'utf-8' codec can't decode " ++ place ++ ": " ++ f.reason.message

/-- Reads bytes that have to be valid. `begun` holds the bytes of the sequence being read, the last one first, and
`position` is where it starts. -/
def decodeStrictFrom (state : State) (begun : Bytes) (position : Nat) : Bytes → Except Fault Text
  | [] =>
    match begun.getLast? with
    | none => .ok []
    | some first => .error ⟨first, position, begun.length, .unexpectedEnd⟩
  | b :: bs =>
    match state with
    | .start =>
      if b.toNat < 0x80 then (decodeStrictFrom .start [] (position + 1) bs).map (CodePoint.ofNat b.toNat :: ·)
      else match lead? b.toNat with
        | some s => decodeStrictFrom s [b] position bs
        | none => .error ⟨b, position, 1, .invalidStart⟩
    | .inside bits missing low high =>
      if low ≤ b.toNat && b.toNat ≤ high then
        let bits' := bits * 0x40 + (b.toNat - 0x80)
        if missing ≤ 1 then
          (decodeStrictFrom .start [] (position + begun.length + 1) bs).map (CodePoint.ofNat bits' :: ·)
        else decodeStrictFrom (.inside bits' (missing - 1) 0x80 0xBF) (b :: begun) position bs
      else .error ⟨begun.getLastD b, position, begun.length, .invalidContinuation⟩
    | .surrogate => .error ⟨begun.getLastD b, position, 1, .invalidContinuation⟩

/-- The text of bytes that have to be valid. -/
def decodeStrict (bs : Bytes) : Except Fault Text := decodeStrictFrom .start [] 0 bs

end Utf8

end ContractBuild
