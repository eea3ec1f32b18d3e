import ContractBuild.Log
import ContractBuild.Sink.Call
import ContractBuild.Text.Space

/-!
# A sink made of log records

Each line becomes a record, without the carriage returns at its end; a blank line becomes none. A line that is still open
is held back until it ends, so no record holds a part of a line.
-/

namespace ContractBuild.Sink

/-- What a sink made of log records keeps: the level of its records and the open line. -/
structure Logged where
  level : Log.Level
  held : Text
deriving DecidableEq

namespace Logged

/-- The sink before any call. -/
def start (level : Log.Level) : Logged := ⟨level, []⟩

/-- The records of a line. -/
def recordsOf (level : Log.Level) (line : Text) : List Log.Record :=
  let line := line.dropTrailing Text.carriageReturn
  if line.isBlank then [] else [⟨Log.cargoOutput, level, line⟩]

/-- Ends the open line. -/
def flush (s : Logged) : List Log.Record × Logged :=
  (recordsOf s.level s.held, { s with held := [] })

/-- Takes a piece of text. -/
def append (s : Logged) (t : Text) : List Log.Record × Logged :=
  let pieces := (s.held ++ t).splitOn Text.lineFeed
  (pieces.dropLast.flatMap (recordsOf s.level), { s with held := pieces.getLastD [] })

/-- Takes a call. -/
def call (s : Logged) : Call → List Log.Record × Logged
  | .append t => s.append t
  | .appendLine t =>
    let (records, s) := s.flush
    (records ++ recordsOf s.level t, s)
  | .flush => s.flush

/-- Takes calls in order. -/
def calls (s : Logged) : List Call → List Log.Record × Logged
  | [] => ([], s)
  | c :: cs =>
    let (first, s) := s.call c
    let (rest, s) := s.calls cs
    (first ++ rest, s)

end Logged

end ContractBuild.Sink
