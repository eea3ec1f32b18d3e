import ContractBuild.Text.Quoted
import ContractBuild.Text.Space
import ContractBuild.Text.Word

/-!
# Arguments

The command line names a command, which takes a folder or nothing, and options. An option may be written by any beginning of
its long name that no other option shares, and its value may stand behind an equals sign or as the next argument. The
settings file may be named before the command and behind it; the later one counts.

Arguments are first sorted into words (`Word.ofArgument`): options, operands, and the double dash, behind which all are
operands. A negative number and a text with a space are operands too. Words are then taken from left to right.
-/

namespace ContractBuild.CommandLine

/-- What help and errors are about: the program, or one of its commands. -/
inductive Topic where
  | program
  | build
  | verify
deriving DecidableEq

/-- An option. -/
inductive Switch where
  | help
  | json
  | config
deriving DecidableEq

/-- What is asked for. -/
inductive Command where
  | build (folder : Text) (json : Bool)
  | verify
deriving DecidableEq

/-- The arguments of a run: a command and the settings file, when one is named. -/
structure Arguments where
  command : Command
  config : Option Text
deriving DecidableEq

/-- What is wrong with arguments. -/
inductive Misuse where
  | missing (operand : Text)
  | unrecognized (arguments : List Text)
  | missingValue (switch : Switch)
  | needlessValue (switch : Switch) (value : Text)
  | ambiguous (argument : Text) (names : List Text)
  | unknownCommand (name : Text)
deriving DecidableEq

/-- Why a run ends with its arguments: help was asked for, or they are wrong. -/
inductive Stop where
  | help (topic : Topic)
  | misuse (topic : Topic) (misuse : Misuse)
deriving DecidableEq

/-! ## Options -/

/-- The options of a topic. -/
def Topic.switches : Topic → List Switch
  | .program => [.help, .config]
  | .build => [.help, .json, .config]
  | .verify => [.help, .config]

/-- The long name of an option. -/
def Switch.longName : Switch → Text
  | .help => "--help"
  | .json => "--json"
  | .config => "--config"

/-- The short name of help, the only option that has one. -/
def shortHelp : Text := "-h"

/-- How errors name an option. -/
def Switch.shown : Switch → Text
  | .help => shortHelp ++ "/" ++ Switch.help.longName
  | s => s.longName

/-- The dash that options begin with. -/
def dash : CodePoint := '-'

/-- The sign between an option and its value. -/
def equalsSign : CodePoint := '='

/-- The double dash, behind which there are no options. -/
def doubleDash : Text := "--"

/-- An argument up to its equals sign, and the value behind it. -/
def splitValue (argument : Text) : Text × Option Text :=
  match argument.dropWhile (· ≠ equalsSign) with
  | [] => (argument, none)
  | _ :: value => (argument.takeWhile (· ≠ equalsSign), some value)

/-! ## Words -/

/-- An argument by its role. Letters that follow the short name of help are kept with it. -/
inductive Word where
  | operand (t : Text)
  | separator
  | switch (s : Switch) (value : Option Text)
  | shortHelp (letters : Text)
  | unknown (t : Text)

/-- The argument that a word was made of, as far as it is told when it is not recognized. -/
def Word.argument : Word → Text
  | .operand t => t
  | .separator => doubleDash
  | .switch s _ => s.longName
  | .shortHelp letters => CommandLine.shortHelp ++ letters
  | .unknown t => t

/-- Whether an argument is a negative number, in decimal digits of any script. -/
def isNegativeNumber (argument : Text) : Bool :=
  let body : Text := if argument.getLast? = some Text.lineFeed then argument.dropLast else argument
  match Text.dropPrefix? body "-" with
  | none => false
  | some (number : Text) =>
    match Text.dropPrefix? (number.dropWhile CodePoint.isDecimal) "." with
    | some places => places ≠ [] && places.all CodePoint.isDecimal
    | none => number ≠ [] && number.all CodePoint.isDecimal

/-- Whether an argument that is no option still counts as an operand. -/
def isOperand (argument : Text) : Bool := isNegativeNumber argument || argument.any (· = (' ' : CodePoint))

/-- The word of an argument that begins with a dash and is not just a dash. -/
def Word.ofDashed (topic : Topic) (argument : Text) : Except Misuse Word :=
  let (name, value) := splitValue argument
  if name = CommandLine.shortHelp then
    .ok (.shortHelp (argument.drop 2))
  else match topic.switches.find? (·.longName = name) with
    | some s => .ok (.switch s value)
    | none =>
      if argument.startsWith doubleDash then
        match topic.switches.filter (·.longName.startsWith name) with
        | [s] => .ok (.switch s value)
        | [] => .ok (if isOperand argument then .operand argument else .unknown argument)
        | several => .error (.ambiguous argument (several.map Switch.longName))
      else if argument.startsWith CommandLine.shortHelp then .ok (.shortHelp (argument.drop 2))
      else .ok (if isOperand argument then .operand argument else .unknown argument)

/-- The word of an argument before the double dash. -/
def Word.ofArgument (topic : Topic) (argument : Text) : Except Misuse Word :=
  match argument with
  | c :: _ :: _ => if c = dash then Word.ofDashed topic argument else .ok (.operand argument)
  | _ => .ok (.operand argument)

/-- The words of arguments. -/
def Word.ofArguments (topic : Topic) : List Text → Except Misuse (List Word)
  | [] => .ok []
  | argument :: rest =>
    if argument = doubleDash then .ok (.separator :: rest.map .operand)
    else do
      let word ← Word.ofArgument topic argument
      let words ← Word.ofArguments topic rest
      return word :: words

/-! ## Taking words -/

/-- Whether help is asked for by the short name with letters behind it. The same letter may be repeated; a dash and a value
are refused, and other letters are passed over. -/
def shortHelpValue (isValue : Bool) : Text → Except Misuse Unit
  | [] => .error (.needlessValue .help [])
  | c :: letters =>
    if isValue || c = dash then .error (.needlessValue .help (c :: letters))
    else if c = (('h' : Char) : CodePoint) then
      match letters with
      | [] => .ok ()
      | d :: value =>
        if d = equalsSign then shortHelpValue true value else shortHelpValue false (d :: value)
    else .ok ()

/-- What the short name of help with letters behind it asks for. -/
def shortHelpStop (topic : Topic) : Text → Stop
  | [] => .help topic
  | c :: letters =>
    let result := if c = equalsSign then shortHelpValue true letters else shortHelpValue false (c :: letters)
    match result with
    | .ok () => .help topic
    | .error e => .misuse topic e

/-- What the words behind a command give. -/
structure Operands where
  folder : Option Text
  json : Bool
  config : Option Text
  extras : List Text

/-- Takes the words behind a command; `wanted` says whether it still wants a folder. -/
def Operands.take (topic : Topic) (o : Operands) (wanted : Bool) : List Word → Except Stop Operands
  | [] => .ok o
  | .operand t :: .separator :: rest =>
    if wanted then take topic { o with folder := some t } false rest
    else take topic { o with extras := o.extras ++ [t, doubleDash] } wanted rest
  | .operand t :: rest =>
    if wanted then take topic { o with folder := some t } false rest
    else take topic { o with extras := o.extras ++ [t] } wanted rest
  | .separator :: .operand t :: rest =>
    if wanted then take topic { o with folder := some t } false rest
    else take topic { o with extras := o.extras ++ [doubleDash, t] } wanted rest
  | .separator :: rest => take topic { o with extras := o.extras ++ [doubleDash] } wanted rest
  | .unknown t :: rest => take topic { o with extras := o.extras ++ [t] } wanted rest
  | .shortHelp letters :: _ => .error (shortHelpStop topic letters)
  | .switch .help none :: _ => .error (.help topic)
  | .switch .help (some v) :: _ => .error (.misuse topic (.needlessValue .help v))
  | .switch .json none :: rest => take topic { o with json := true } wanted rest
  | .switch .json (some v) :: _ => .error (.misuse topic (.needlessValue .json v))
  | .switch .config (some v) :: rest => take topic { o with config := some v } wanted rest
  | .switch .config none :: .operand v :: rest => take topic { o with config := some v } wanted rest
  | .switch .config none :: _ => .error (.misuse topic (.missingValue .config))

/-- What the arguments behind a command give. -/
def operands (topic : Topic) (wanted : Bool) (arguments : List Text) : Except Stop Operands := do
  let words ← (Word.ofArguments topic arguments).mapError (.misuse topic)
  Operands.take topic ⟨none, false, none, []⟩ wanted words

/-- The command with a name, with the arguments behind it, and what is left of them. -/
def commandOf (name : Text) (arguments : List Text) : Except Stop (Command × Option Text × List Text) :=
  if name = "build" then do
    let o ← operands .build true arguments
    match o.folder with
    | none => .error (.misuse .build (.missing "folder"))
    | some folder => return (.build folder o.json, o.config, o.extras)
  else if name = "verify" then do
    let o ← operands .verify false arguments
    return (.verify, o.config, o.extras)
  else .error (.misuse .program (.unknownCommand name))

/-- Takes the words up to the command, given the arguments that they were made of. -/
def takeProgram (config : Option Text) (extras : List Text) :
    List Word → List Text → Except Stop (Arguments × List Text)
  | .operand name :: _, _ :: arguments => do
    let (command, inner, more) ← commandOf name arguments
    return (⟨command, inner.or config⟩, extras ++ more)
  | .separator :: _ :: _, _ => .error (.misuse .program (.unknownCommand doubleDash))
  | .unknown t :: words, _ :: arguments => takeProgram config (extras ++ [t]) words arguments
  | .shortHelp letters :: _, _ => .error (shortHelpStop .program letters)
  | .switch .config (some v) :: words, _ :: arguments => takeProgram (some v) extras words arguments
  | .switch .config none :: .operand v :: words, _ :: _ :: arguments => takeProgram (some v) extras words arguments
  | .switch .config none :: _, _ => .error (.misuse .program (.missingValue .config))
  | .switch s (some v) :: _, _ => .error (.misuse .program (.needlessValue s v))
  | .switch _ none :: _, _ => .error (.help .program)
  | _, _ => .error (.misuse .program (.missing "command"))

/-- The arguments of a run. -/
def parseArguments (arguments : List Text) : Except Stop Arguments := do
  let words ← (Word.ofArguments .program arguments).mapError (.misuse .program)
  let (parsed, extras) ← takeProgram none [] words arguments
  if extras.isEmpty then return parsed else .error (.misuse .program (.unrecognized extras))

end ContractBuild.CommandLine
