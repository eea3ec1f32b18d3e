import ContractBuild.Message
import ContractBuild.SystemError
import ContractBuild.Text.Case
import ContractBuild.Text.Space
import ContractBuild.Text.Word

/-!
# Toolchain problems

Some builds fail for want of a target, a toolchain, a linker or another tool, which no source file is to blame for. Such
problems are known by phrases in the output, which are tried in a fixed order. Each problem gives a hint, and a list of
hints holds each text once, in the order of first sight (`Toolchain.record`). `Toolchain.classify` looks at a symptom when
it comes and records its hint.
-/

namespace ContractBuild.Toolchain

/-- The target that contracts are built for. -/
def target : Text := "wasm32-unknown-unknown"

/-- What is wrong with the tools. -/
inductive Hint where
  | missingTarget
  | missingToolchain (name : Text)
  | missingSubcommand (name : Text)
  | missingLinker (name : Text)
  | missingManifest
  | notStarted (command : Text) (error : SpawnError)
deriving DecidableEq

/-- The wording of a hint. -/
def Hint.message : Hint → Text
  | .missingTarget =>
    "The " ++ target ++ " target may not be installed. Run `rustup target add " ++ target ++ "`."
  | .missingToolchain name =>
    "Rust toolchain '" ++ name ++ "' is not installed. Run `rustup toolchain install " ++ name ++ "`."
  | .missingSubcommand name => "cargo does not provide the `" ++ name ++ "` command."
  | .missingLinker name => "Linker `" ++ name ++ "` was not found on PATH."
  | .missingManifest => "No Cargo.toml was found in the project folder or its parents."
  | .notStarted command error =>
    "Could not start `" ++ command ++ "`: " ++ error.message ++ ". Is the Rust toolchain installed and on PATH?"

/-! ## Phrases -/

/-- Whether a line speaks of a target that is not installed. -/
def mentionsTarget (line : Text) : Bool :=
  Text.contains (line.map CodePoint.folded) "target may not be installed" ||
    line.contains "can't find crate for `core`" || line.contains "can't find crate for `std`"

/-- The name between `before` and `after` at the start of `t`. It is not empty and does not hold the quote, with which
`after` starts. -/
def enclosedAt? (before : Text) (quote : CodePoint) (after : Text) (t : Text) : Option Text :=
  match t.dropPrefix? before with
  | none => none
  | some rest =>
    let name := rest.takeWhile (· ≠ quote)
    if name ≠ [] && Text.startsWith (rest.dropWhile (· ≠ quote)) after then some name else none

/-- The toolchain that a line says is not installed. -/
def toolchainName? : Text → Option Text :=
  Text.firstSuffix? (enclosedAt? "toolchain '" '\'' "' is not installed")

/-- The linker that a line says was not found. -/
def linkerName? : Text → Option Text :=
  Text.firstSuffix? (enclosedAt? "linker `" '`' "` not found")

/-- A code point of the name of a command. -/
def isCommandPart (c : CodePoint) : Bool := c.isWord || c = '-'

/-- The command at the start of `t` that is said not to exist. -/
def subcommandAt? (t : Text) : Option Text :=
  match t.dropPrefix? "no such " with
  | none => none
  | some rest =>
    match (Text.skipOptional "sub" rest).dropPrefix? "command" with
    | none => none
    | some rest =>
      let name := (Text.skipOptional "`" (Text.skipOptional ":" rest).stripLeft).takeWhile isCommandPart
      if name ≠ [] then some name else none

/-- The command that a line says does not exist. -/
def subcommandName? : Text → Option Text := Text.firstSuffix? subcommandAt?

/-- Whether a line says that there is no manifest. -/
def mentionsManifest (line : Text) : Bool := line.contains "could not find `Cargo.toml`"

/-! ## Hints of output -/

namespace Hint

/-- The hint of a line. -/
def ofLine? (line : Text) : Option Hint :=
  if mentionsTarget line then some .missingTarget
  else if let some name := toolchainName? line then some (.missingToolchain name)
  else if let some name := subcommandName? line then some (.missingSubcommand name)
  else if let some name := linkerName? line then some (.missingLinker name)
  else if mentionsManifest line then some .missingManifest
  else none

/-- The lines of a text under a key. -/
def linesOf (key : Text) (body : List (Text × Value)) : List Text :=
  match Value.entry? key body with
  | some (.text t) => t.lines
  | _ => []

/-- The body of an error that points at no file. -/
def bodyWithoutSpans? (m : Message) : Option (List (Text × Value)) :=
  if m.kind ≠ .compilerDiagnostic then none
  else match m.field? "message" with
    | some (.map body) =>
      let level := (Value.entry? "level" body).bind Value.text?
      let spans := (Value.entry? "spans" body).getD .null
      if level = some "error" && !spans.isTruthy then some body else none
    | _ => none

/-- The hint of a message: that of the first line of its rendered text, and then of its bare text, that has one. -/
def ofMessage? (m : Message) : Option Hint :=
  (bodyWithoutSpans? m).bind fun body => (linesOf "rendered" body ++ linesOf "message" body).findSome? ofLine?

end Hint

/-- The hints with another one, unless it is there already. -/
def record (hints : List Text) : Option Hint → List Text
  | none => hints
  | some hint => if hints.elem hint.message then hints else hints ++ [hint.message]

/-! ## Symptoms, one after the other -/

/-- What may tell of a toolchain problem. -/
inductive Symptom where
  | line (t : Text)
  | message (m : Message)
  | notStarted (command : Text) (error : SpawnError)

/-- Looks at a line and records its hint. -/
def classifyLine (known : List Text) (line : Text) : Option Text × List Text :=
  match Hint.ofLine? line with
  | some hint => (some hint.message, record known (some hint))
  | none => (none, known)

/-- Looks at lines, up to the first that has a hint. -/
def classifyLines (known : List Text) : List Text → Option Text × List Text
  | [] => (none, known)
  | line :: rest =>
    match classifyLine known line with
    | (some hint, known') => (some hint, known')
    | (none, known') => classifyLines known' rest

/-- Looks at the lines of an error that points at no file: first those of its rendered text, then those of its bare
text. -/
def classifyMessage (known : List Text) (m : Message) : Option Text × List Text :=
  match Hint.bodyWithoutSpans? m with
  | none => (none, known)
  | some body =>
    match classifyLines known (Hint.linesOf "rendered" body) with
    | (some hint, known') => (some hint, known')
    | (none, known') => classifyLines known' (Hint.linesOf "message" body)

/-- Looks at a symptom: what it gives, and the hints behind it. -/
def classify (known : List Text) : Symptom → Option Text × List Text
  | .line t => classifyLine known t
  | .message m => classifyMessage known m
  | .notStarted command error =>
    (some (Hint.notStarted command error).message, record known (some (.notStarted command error)))

/-- Looks at symptoms, one after the other: what each gives, and the hints behind all of them. -/
def classifyAll (known : List Text) : List Symptom → List (Option Text) × List Text
  | [] => ([], known)
  | s :: rest =>
    ((classify known s).1 :: (classifyAll (classify known s).2 rest).1, (classifyAll (classify known s).2 rest).2)

end ContractBuild.Toolchain
