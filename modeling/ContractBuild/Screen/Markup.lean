import ContractBuild.Text.Case
import ContractBuild.Text.Space

/-!
# Markup

A boxed screen reads its texts as markup. A tag is a word in brackets that starts with a small letter or one of `#`, `/`
and `@`, and it is not shown. Each pair of backslashes before a tag shows as one, and a single backslash makes the tag
plain text. Some names between colons show as symbols, which are a parameter. `Markup.escape` prepares a text that is to
be shown as it is.
-/

namespace ContractBuild.Screen.Markup

/-- The backslash. -/
def backslash : CodePoint := '\\'

/-- A code point that a tag may start with. -/
def startsTag (c : CodePoint) : Bool :=
  (0x61 ≤ c.val && c.val ≤ 0x7A) || c = '#' || c = '/' || c = '@'

/-- Splits behind the first closing bracket; there is none when an opening one comes first. -/
def closing? : Text → Option (Text × Text)
  | [] => none
  | c :: t =>
    if c = ']' then some ([c], t)
    else if c = '[' then none
    else (closing? t).map fun (inner, rest) => (c :: inner, rest)

/-- A tag with the number of backslashes before it. -/
structure Tag where
  backslashes : Nat
  text : Text

/-- The tag at the start of a text, with the rest behind it. -/
def tagAt? (t : Text) : Option (Tag × Text) :=
  match t.dropWhile (· = backslash) with
  | b :: c :: rest =>
    if b = '[' && startsTag c then
      (closing? rest).map fun (inner, rest) => (⟨(t.takeWhile (· = backslash)).length, b :: c :: inner⟩, rest)
    else none
  | _ => none

/-- `t` with every tag escaped, where `skip` code points are still to be passed over. -/
def escapeFrom : Nat → Text → Text
  | _, [] => []
  | skip + 1, _ :: t => escapeFrom skip t
  | 0, c :: t =>
    match tagAt? (c :: t) with
    | some (tag, rest) =>
      Text.copies (2 * tag.backslashes + 1) backslash ++ tag.text ++ escapeFrom (t.length - rest.length) t
    | none => c :: escapeFrom 0 t

/-- Markup for a text. A single backslash at the end is doubled, since a tag may follow it. -/
def escape (t : Text) : Text :=
  let escaped := escapeFrom 0 t
  if escaped.endsWith "\\" && !escaped.endsWith "\\\\" then escaped ++ "\\" else escaped

/-- The pieces of plain text between the tags of `t`. `piece` is the piece so far with its last code point first, and
`skip` code points are still to be passed over. -/
def piecesFrom (piece : Text) : Nat → Text → List Text
  | _, [] => [piece.reverse]
  | skip + 1, _ :: t => piecesFrom piece skip t
  | 0, c :: t =>
    match tagAt? (c :: t) with
    | some (tag, rest) =>
      let escaped : Text := if tag.backslashes % 2 = 1 then tag.text else []
      [piece.reverse, Text.copies (tag.backslashes / 2) backslash, escaped] ++
        piecesFrom [] (t.length - rest.length) t
    | none => piecesFrom (c :: piece) 0 t

/-- `t` without the backslashes that stand before an opening bracket. -/
def freeBrackets : Text → Text
  | [] => []
  | c :: t => if c = backslash && t.head? = some ('[' : CodePoint) then freeBrackets t else c :: freeBrackets t

/-! ## Symbols -/

/-- The symbols that have names. There is no colon in a symbol. -/
structure Symbols where
  named? : Text → Option Text
  no_colon : ∀ name symbol, named? name = some symbol → (':' : CodePoint) ∉ symbol

/-- The symbols that have numbers for names. -/
def Symbols.numbered : Symbols where
  named? name := if name = "100" then some "💯" else if name = "1234" then some "🔢" else none
  no_colon name symbol h := by
    split at h
    · cases h
      decide
    · split at h
      · cases h
        decide
      · cases h

/-- The endings of a name that choose how a symbol looks, with the selectors that they stand for. -/
def looks : List (Text × Text) := [("-emoji:", "\uFE0F"), ("-text:", "\uFE0E"), (":", [])]

/-- Splits a name, its ending and the rest behind it; white space ends the search. -/
def nameEnd? : Text → Option (Text × Text × Text)
  | [] => none
  | c :: t =>
    match looks.findSome? fun (ending, selector) => (Text.dropPrefix? (c :: t) ending).map fun rest => (selector, rest) with
    | some (selector, rest) => some ([], selector, rest)
    | none => if c.isSpace then none else (nameEnd? t).map fun (name, rest) => (c :: name, rest)

/-- The text with names of symbols replaced, where `skip` code points are still to be passed over: those with `keep` are
kept and the others are left out. -/
def replaceFrom (symbols : Symbols) (keep : Bool) : Nat → Text → Text
  | _, [] => []
  | skip + 1, c :: t => if keep then c :: replaceFrom symbols keep skip t else replaceFrom symbols keep skip t
  | 0, c :: t =>
    if c = ':' then
      match nameEnd? t with
      | none => c :: replaceFrom symbols true 0 t
      | some (name, selector, rest) =>
        match symbols.named? name.lower with
        | some symbol => symbol ++ selector ++ replaceFrom symbols false (t.length - rest.length) t
        | none => c :: replaceFrom symbols true (t.length - rest.length) t
    else c :: replaceFrom symbols true 0 t

/-- The text with names of symbols replaced. -/
def replaceSymbols (symbols : Symbols) (t : Text) : Text := replaceFrom symbols true 0 t

/-! ## What is shown -/

/-- A control that a screen does not show. -/
def isHidden (c : CodePoint) : Bool := c.val = 7 || c.val = 8 || (0x0B ≤ c.val && c.val ≤ 0x0D)

/-- What a screen shows for markup. -/
def shown (symbols : Symbols) (markup : Text) : Text :=
  ((piecesFrom [] 0 markup).flatMap fun piece => replaceSymbols symbols (freeBrackets piece)).filter (!isHidden ·)

end ContractBuild.Screen.Markup
