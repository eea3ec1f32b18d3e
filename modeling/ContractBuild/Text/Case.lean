import ContractBuild.Text.Basic
import ContractBuild.Text.CaseRanges

/-!
# Case

`Text.lower` and `Text.upper` map every code point by the full mappings of Unicode, so a text can grow. A capital sigma
that ends a word becomes a final sigma: a cased code point stands before it and none behind it, code points without
influence on case not counting.
-/

namespace ContractBuild

/-- A code point without regard to case, as far as ASCII letters are concerned. -/
def CodePoint.folded (c : CodePoint) : CodePoint :=
  if 0x41 ≤ c.val && c.val ≤ 0x5A then CodePoint.ofNat (c.val + 0x20)
  else if c.val = 0x17F then 's'
  else if c.val = 0x130 || c.val = 0x131 then 'i'
  else if c.val = 0x212A then 'k'
  else c

namespace Text

/-- What a range maps `n` to. -/
def CaseRange.image? (r : CaseRange) (n : Nat) : Option Nat :=
  if r.first ≤ n && n ≤ r.last && (n - r.first) % r.stride == 0 then some ((n : Int) + r.delta).toNat else none

/-- The case mapping of one code point by a table of single mappings and one of expansions. -/
def mapCase (ranges : List CaseRange) (expansions : List (Nat × List Nat)) (c : CodePoint) : Text :=
  match expansions.lookup c.val with
  | some ns => ns.map CodePoint.ofNat
  | none =>
    match ranges.findSome? (·.image? c.val) with
    | some n => [CodePoint.ofNat n]
    | none => [c]

/-- Whether the first code point of `t` that matters for case is a cased one. -/
def cased (t : Text) : Bool :=
  match t.dropWhile fun c => caseIgnorableRanges.contains c.val with
  | [] => false
  | c :: _ => casedRanges.contains c.val

/-- `t` in lower case, where `before` precedes it, the nearest code point first. -/
def lowerFrom (before : Text) : Text → Text
  | [] => []
  | c :: t =>
    let here : Text :=
      if c.val = 0x3A3 then [CodePoint.ofNat (if cased before && !cased t then 0x3C2 else 0x3C3)]
      else mapCase lowerRanges lowerExpansions c
    here ++ lowerFrom (c :: before) t

/-- `t` in lower case. -/
def lower (t : Text) : Text := lowerFrom [] t

/-- `t` in upper case. -/
def upper (t : Text) : Text := t.flatMap (mapCase upperRanges upperExpansions)

end Text

end ContractBuild
