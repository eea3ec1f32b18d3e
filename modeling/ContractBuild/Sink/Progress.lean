import ContractBuild.LineBuffer
import ContractBuild.Sink.Call

/-!
# Progress

Cargo says on a line of its own what it is doing. A progress sink hands every call on as it is, and for each such line it
gives a text for the status: what is being built, what cargo does, and what it does it to.
-/

namespace ContractBuild.Sink

/-- What a progress sink keeps: what is being built, and the line that is open. -/
structure Progress where
  label : Text
  lines : LineBuffer

namespace Progress

/-- The sink before any call. -/
def start (label : Text) : Progress := ⟨label, .empty⟩

/-- What cargo does. -/
def verbs : List Text := ["Updating", "Downloading", "Downloaded", "Compiling", "Checking", "Finished"]

/-- What stands behind a verb and white space. -/
def object? (verb line : Text) : Option Text :=
  match line.dropPrefix? verb with
  | none => none
  | some rest => if (rest.head?.map CodePoint.isSpace).getD false then some rest.stripLeft else none

/-- The verb and the rest of a line of progress. -/
def step? (line : Text) : Option (Text × Text) :=
  verbs.findSome? fun verb => (object? verb line).map fun rest => (verb, rest)

/-- The status for a step. -/
def statusText (label : Text) (step : Text × Text) : Text := label ++ ": " ++ step.1 ++ " " ++ step.2

/-- Takes a call and gives the status texts; the call itself is handed on. -/
def call (s : Progress) : Call → List Text × Progress
  | .append t =>
    let (lines, buffer) := s.lines.take (.text t)
    (lines.filterMap fun line => (step? line).map (statusText s.label), { s with lines := buffer })
  | .appendLine _ => ([], s)
  | .flush => ([], s)

/-- What a progress sink does: it hands a call on, or changes the status. -/
inductive Effect where
  | handOn (c : Call)
  | status (t : Text)
deriving DecidableEq

namespace Effect

/-- The call that is handed on. -/
def call? : Effect → Option Call
  | .handOn c => some c
  | .status _ => none

/-- The new status. -/
def status? : Effect → Option Text
  | .handOn _ => none
  | .status t => some t

end Effect

/-- Takes a call: it is handed on, and then the status follows it. -/
def perform (s : Progress) (c : Call) : List Effect × Progress :=
  let (texts, s) := s.call c
  (.handOn c :: texts.map .status, s)

/-- Takes calls in order. -/
def calls (s : Progress) : List Call → List Effect × Progress
  | [] => ([], s)
  | c :: cs =>
    let (first, s) := s.perform c
    let (rest, s) := s.calls cs
    (first ++ rest, s)

/-- The status texts for calls. -/
def statuses (s : Progress) (cs : List Call) : List Text := (s.calls cs).1.filterMap Effect.status?

end Progress

end ContractBuild.Sink
