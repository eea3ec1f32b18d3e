import ContractBuild.Text.Quoted
import ContractBuild.Text.WidthRanges
import ContractBuild.Text.Word

/-!
# Widths

How many columns a text takes on a terminal. Two measures are in use. `Text.columns` counts nothing for controls and
combining marks, and two columns for wide code points. `Text.statusColumns` counts one column for every code point and
two for wide and for unassigned ones, once the colour codes are taken out.
-/

namespace ContractBuild

namespace CodePoint

/-- A code point that takes two columns. -/
def isWide (c : CodePoint) : Bool := Text.wideRanges.contains c.val

/-- A code point that Unicode does not assign. -/
def isUnassigned (c : CodePoint) : Bool := !c.isPrintable && !Text.hiddenRanges.contains c.val

/-- The columns of a code point in a box. -/
def columns (c : CodePoint) : Nat :=
  if c.val < 0x20 || (0x7F ≤ c.val && c.val < 0xA0) then 0
  else if Text.combiningRanges.contains c.val then 0
  else if c.isWide then 2
  else 1

/-- The columns of a code point on a status line. -/
def statusColumns (c : CodePoint) : Nat := if c.isWide || c.isUnassigned then 2 else 1

end CodePoint

namespace Text

/-- The columns of a text in a box. -/
def columns (t : Text) : Nat := t.foldl (fun n c => n + c.columns) 0

/-- The rest of `t` behind the parameters and the final letter of a colour code. -/
def colourCodeEnd? : Text → Option Text
  | [] => none
  | c :: t => if c.isLetter then some t else if c = ';' || c.isDecimal then colourCodeEnd? t else none

/-- The rest of `t` behind a colour code at its start. -/
def dropColourCode? (t : Text) : Option Text := (dropPrefix? t "\x1b[").bind colourCodeEnd?

/-- `t` without its colour codes, of which `skip` code points are still to be passed over. -/
def withoutColoursFrom : Nat → Text → Text
  | _, [] => []
  | skip + 1, _ :: t => withoutColoursFrom skip t
  | 0, c :: t =>
    match dropColourCode? (c :: t) with
    | some rest => withoutColoursFrom (t.length - rest.length) t
    | none => c :: withoutColoursFrom 0 t

/-- `t` without its colour codes. -/
def withoutColours (t : Text) : Text := withoutColoursFrom 0 t

/-- The columns of a text on a status line. -/
def statusColumns (t : Text) : Nat := t.withoutColours.foldl (fun n c => n + c.statusColumns) 0

end Text

end ContractBuild
