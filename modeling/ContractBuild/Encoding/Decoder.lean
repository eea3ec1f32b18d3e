import ContractBuild.Encoding.Utf16
import ContractBuild.Text.Word

/-!
# Decoders

A decoder turns bytes into text as they arrive and never fails: what cannot be read becomes U+FFFD. Encodings are found
by name, where case does not count and any run of other characters than letters and digits is one separator.
-/

namespace ContractBuild

/-- An encoding of text. -/
inductive Encoding where
  | utf8
  | latin1
  | ascii
  | utf16
deriving DecidableEq

namespace Encoding

/-- Whether a code point is part of a word in the name of an encoding. -/
def isNamePart (c : CodePoint) : Bool := (c.isWord && c.val ≠ 0x5F) || c.val = 0x2E

/-- An ASCII letter in small form. -/
def smallLetter (c : CodePoint) : CodePoint :=
  if 0x41 ≤ c.val && c.val ≤ 0x5A then CodePoint.ofNat (c.val + 0x20) else c

/-- The name in small letters, with one underscore for each run of separators inside it. -/
def normalizedName (name : Text) : Text :=
  let words := (List.splitOnP (fun c => !isNamePart c) name).filter (· ≠ [])
  Text.joinWith "_" (words.map fun word => (word.filter (·.val < 0x80)).map smallLetter)

/-- The names that each encoding has. -/
def names : List (Encoding × List Text) := [
  (.utf8, ["utf_8", "utf8", "u8", "utf", "cp65001"]),
  (.latin1, ["latin_1", "latin1", "l1", "latin", "iso_8859_1", "iso8859_1", "iso8859", "8859", "cp819", "ibm819"]),
  (.ascii, ["ascii", "us_ascii", "us", "646", "cp367", "ibm367", "iso646_us"]),
  (.utf16, ["utf_16_le", "utf_16le", "unicodelittleunmarked"])]

/-- The encoding with a name. -/
def ofName? (name : Text) : Option Encoding :=
  (names.find? fun entry => entry.2.elem (normalizedName name)).map Prod.fst

end Encoding

/-- A decoder with what it keeps between two chunks. -/
inductive Decoder where
  | utf8 (state : Utf8.State)
  | latin1
  | ascii
  | utf16 (state : Utf16.State)
deriving DecidableEq

namespace Decoder

/-- The decoder for an encoding, before the first byte. -/
def ofEncoding : Encoding → Decoder
  | .utf8 => .utf8 .start
  | .latin1 => .latin1
  | .ascii => .ascii
  | .utf16 => .utf16 .start

/-- Reads a chunk. -/
def read : Decoder → Bytes → Text × Decoder
  | .utf8 s, bs => let (t, s') := Utf8.readAll s bs; (t, .utf8 s')
  | .latin1, bs => (bs.map fun b => CodePoint.ofNat b.toNat, .latin1)
  | .ascii, bs => (bs.map fun b => if b < 0x80 then CodePoint.ofNat b.toNat else .replacement, .ascii)
  | .utf16 s, bs => let (t, s') := Utf16.readAll s bs; (t, .utf16 s')

/-- What the end of the bytes adds. -/
def flush : Decoder → Text
  | .utf8 s => s.flush
  | .latin1 | .ascii => []
  | .utf16 s => s.flush

end Decoder

end ContractBuild
