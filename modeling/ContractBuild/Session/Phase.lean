import ContractBuild.Text.Basic

/-!
# Phases of a build

A build is started once, streams its output, and ends. The only other way is a process that cannot be started.
-/

namespace ContractBuild

/-- Where a build stands. -/
inductive Phase where
  | idle
  | spawning
  | streaming
  | finalizing
  | completed
  | failedToSpawn
deriving DecidableEq

namespace Phase

/-- The name of a phase. -/
def name : Phase → Text
  | .idle => "idle"
  | .spawning => "spawning"
  | .streaming => "streaming"
  | .finalizing => "finalizing"
  | .completed => "completed"
  | .failedToSpawn => "failed_to_spawn"

/-- The phases that may follow a phase. -/
def next : Phase → List Phase
  | .idle => [.spawning]
  | .spawning => [.streaming, .failedToSpawn]
  | .streaming => [.finalizing]
  | .finalizing => [.completed]
  | .completed => []
  | .failedToSpawn => []

/-- Whether no phase follows. -/
def isLast (p : Phase) : Bool := p.next.isEmpty

end Phase

end ContractBuild
