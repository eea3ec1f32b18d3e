import ContractBuild.Encoding.Utf8

/-!
# UTF-16, little endian

A reader of UTF-16 takes one byte at a time. Half of a surrogate pair that stands alone becomes U+FFFD; the unit that
shows the first half to be alone is read afresh.
-/

namespace ContractBuild.Utf16

/-- What a reader keeps between two bytes: the first half of a surrogate pair and the low byte of a unit, when it has
them. -/
structure State where
  high : Option CodePoint
  low : Option Nat
deriving DecidableEq

/-- The state between two sequences. -/
def State.start : State := ⟨none, none⟩

/-- Reads a unit that no first half precedes. -/
def readUnit (unit : CodePoint) : Text × State :=
  if unit.isHighSurrogate then ([], ⟨some unit, none⟩)
  else if unit.isLowSurrogate then ([.replacement], .start)
  else ([unit], .start)

/-- Reads a byte. -/
def read (s : State) (b : UInt8) : Text × State :=
  match s.low with
  | none => ([], { s with low := some b.toNat })
  | some low =>
    let unit := CodePoint.ofNat (low + 0x100 * b.toNat)
    match s.high with
    | none => readUnit unit
    | some high =>
      if unit.isLowSurrogate then ([CodePoint.ofSurrogates high unit], .start)
      else
        let (t, s') := readUnit unit
        (.replacement :: t, s')

/-- Reads bytes in order. -/
def readAll : State → Bytes → Text × State
  | s, [] => ([], s)
  | s, b :: bs =>
    let (t, s') := read s b
    let (u, s'') := readAll s' bs
    (t ++ u, s'')

/-- What the end of the bytes adds. -/
def State.flush (s : State) : Text := if s = .start then [] else [.replacement]

end ContractBuild.Utf16
