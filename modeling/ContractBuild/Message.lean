import ContractBuild.Json.Parser

/-!
# Messages

Cargo writes one JSON message a line. A message is known by its `reason`; a document that is no map is a message without
fields. Lines that are not JSON belong to other output and are no messages.
-/

namespace ContractBuild

namespace Message

/-- What a message reports. -/
inductive Kind where
  | artifactProduced
  | compilerDiagnostic
  | buildFinished
  | other
deriving DecidableEq

/-- The name of a kind. -/
def Kind.name : Kind → Text
  | .artifactProduced => "compiler-artifact"
  | .compilerDiagnostic => "compiler-message"
  | .buildFinished => "build-finished"
  | .other => "other"

/-- The kind of a message with the given reason. Tools around cargo may announce an artifact under a second name. -/
def Kind.ofReason : Option Value → Kind
  | some (.text reason) =>
    if reason = "compiler-artifact" || reason = "artifact-produced" then .artifactProduced
    else if reason = "compiler-message" then .compilerDiagnostic
    else if reason = "build-finished" then .buildFinished
    else .other
  | _ => .other

/-- What stops the reading of a message: too deep a document, or a list or map in the place of a level. -/
inductive Fault where
  | tooDeep
  | unusableLevel (found : Text)
deriving DecidableEq

/-- The wording of a fault. -/
def Fault.message : Fault → Text
  | .tooDeep => "maximum recursion depth exceeded while decoding a JSON document"
  | .unusableLevel found => "unhashable type: '" ++ found ++ "'"

end Message

/-- A message with the line that it was read from. -/
structure Message where
  kind : Message.Kind
  fields : List (Text × Value)
  line : Text

namespace Message

/-- A field of a message. -/
def field? (m : Message) (key : Text) : Option Value := Value.entry? key m.fields

/-- The message of a document. -/
def ofValue (line : Text) : Value → Message
  | .map entries => ⟨.ofReason (Value.entry? "reason" entries), entries, line⟩
  | _ => ⟨.other, [], line⟩

/-- The message on a line, `none` for a line that is not JSON. -/
def ofLine? (line : Text) : Except Fault (Option Message) :=
  match Json.parse line with
  | .ok v => .ok (some (ofValue line v))
  | .error .malformed => .ok none
  | .error .tooDeep => .error .tooDeep

/-- The messages among lines, in order. -/
def ofLines : List Text → Except Fault (List Message)
  | [] => .ok []
  | line :: rest =>
    match ofLine? line with
    | .error e => .error e
    | .ok m => (ofLines rest).map fun ms => m.toList ++ ms

end Message

end ContractBuild
