import ContractBuild.Value.Basic

/-!
# Calls to a sink

A sink takes the output of a build as it arrives: pieces of text that may end anywhere, and complete lines of the
builder's own. Flushing ends what is still open.
-/

namespace ContractBuild.Sink

/-- A call to a sink. -/
inductive Call where
  | append (t : Text)
  | appendLine (t : Text)
  | flush
deriving DecidableEq

namespace Call

/-- A call as a value: its name and its argument. -/
def toValue : Call → Value
  | .append t => .list [.text "append", .text t]
  | .appendLine t => .list [.text "append_line", .text t]
  | .flush => .list [.text "flush"]

/-- The calls with neighbouring pieces of text joined. -/
def joined : List Call → List Call
  | [] => []
  | c :: cs =>
    match c, joined cs with
    | .append t, .append u :: rest => .append (t ++ u) :: rest
    | c, rest => c :: rest

/-- The text that calls append. -/
def appended (cs : List Call) : Text :=
  cs.flatMap fun
    | .append t => t
    | _ => []

end Call

end ContractBuild.Sink
