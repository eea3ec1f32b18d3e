import ContractBuild.Encoding.Utf8
import ContractBuild.Value.Display

/-!
# Errors of settings

What can be wrong with settings: a value of the wrong kind, a number that cannot be read, or a text in which something is
missing. Errors are causes; `Settings.Error.message` is their wording.
-/

namespace ContractBuild.Settings

/-- What is wrong with settings. -/
inductive Error where
  | noSections (found : Value)
  | noEntries (found : Value)
  | notAssignable (found : Value)
  | listKey
  | notPath (found : Value)
  | noKeys
  | undecodable (fault : Utf8.Fault)
  | tooDeep
  | notNumber (found : Value)
  | notInteger (text : Text)
  | tooManyDigits (count : Nat)
  | infinite
  | notANumber
  | unsupportedSystem (found : Value)
  | formatWithoutField (format : Text)
  | formatNoText (found : Value)
  | unknownField (name : Text)
  | incompleteFormat
  | incompleteField
  | unsupportedLetter (letter : CodePoint) (place : Nat)
  | wrongArgument (expected : Text) (found : Value)
  | noCharacter
  | noCodePoint
  | countNoInteger
  | tooFewArguments
  | levelNoNumber (found : Text)
  | notFileName (found : Value)
  | notItem (found : Value)
  | notSeconds (found : Value)
  | waitTooLong
deriving Inhabited

namespace Error

/-- The part of a long text that an error shows. -/
def shownPart (t : Text) : Text := t.quoted.take 200

/-- The wording of an error. -/
def message : Error → Text
  | .noSections v => "'" ++ v.kindName ++ "' object has no attribute 'get'"
  | .noEntries v => "'" ++ v.kindName ++ "' object has no attribute 'items'"
  | .notAssignable v => "'" ++ v.kindName ++ "' object does not support item assignment"
  | .listKey => "list indices must be integers or slices, not str"
  | .notPath v => "unsupported operand type(s) for /: 'PosixPath' and '" ++ v.kindName ++ "'"
  | .noKeys => "list index out of range"
  | .undecodable fault => fault.message
  | .tooDeep => "maximum recursion depth exceeded"
  | .notNumber v =>
    "int() argument must be a string, a bytes-like object or a real number, not '" ++ v.kindName ++ "'"
  | .notInteger t => "invalid literal for int() with base 10: " ++ shownPart t
  | .tooManyDigits n =>
    "Exceeds the limit (4300 digits) for integer string conversion: value has " ++ Text.ofNat n ++
      " digits; use sys.set_int_max_str_digits() to increase the limit"
  | .infinite => "cannot convert float infinity to integer"
  | .notANumber => "cannot convert float NaN to integer"
  | .unsupportedSystem v => "Unsupported build system type: " ++ v.display
  | .formatWithoutField f => "Invalid format '" ++ f ++ "' for '%' style"
  | .formatNoText v => "expected string or bytes-like object, got '" ++ v.kindName ++ "'"
  | .unknownField name => "Formatting field not found in record: " ++ name.quoted
  | .incompleteFormat => "incomplete format"
  | .incompleteField => "incomplete format key"
  | .unsupportedLetter letter place =>
    "unsupported format character '" ++ (if 0x1F ≤ letter.val && letter.val ≤ 0x7E then [letter] else "?") ++ "' (0x" ++
      Text.ofChars (Nat.toDigits 16 letter.val) ++ ") at index " ++ Text.ofNat place
  | .wrongArgument expected v => expected ++ ", not " ++ v.kindName
  | .noCharacter => "%c requires int or char"
  | .noCodePoint => "%c arg not in range(0x110000)"
  | .countNoInteger => "* wants int"
  | .tooFewArguments => "not enough arguments for format string"
  | .levelNoNumber t => "Unknown level: " ++ t.quoted
  | .notFileName v => "expected str, bytes or os.PathLike object, not " ++ v.kindName
  | .notItem v => "sequence item 0: expected str instance, " ++ v.kindName ++ " found"
  | .notSeconds v => "unsupported operand type(s) for +: 'float' and '" ++ v.kindName ++ "'"
  | .waitTooLong => "timeout is too large"

end Error

end ContractBuild.Settings
