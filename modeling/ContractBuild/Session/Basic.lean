import ContractBuild.LineBuffer
import ContractBuild.Outcome
import ContractBuild.Session.Findings
import ContractBuild.Session.Phase
import ContractBuild.Value.Display

/-!
# Build sessions

A session holds all that is kept about one build: its phase, a line buffer for each output, and what has been found.
Every operation gives the session after it, also when it fails. An operation out of order changes nothing. A line that
cannot be taken loses the lines behind it in its chunk, and nothing that came before it.

A session is used once. In its last phase the buffers and findings are let go, and only the hints stay.
-/

namespace ContractBuild

/-- The state of one build. -/
structure Session where
  projectDir : Text
  criteria : Artifact.Criteria
  phase : Phase
  stdout : LineBuffer
  stderr : LineBuffer
  findings : Findings

namespace Session

/-- Why an operation on a session fails. -/
inductive Error where
  | order (current requested : Phase)
  | message (fault : Message.Fault)
deriving DecidableEq

/-- The wording of an error. -/
def Error.text : Error → Text
  | .order current requested => "Cannot move build session from " ++ current.name ++ " to " ++ requested.name
  | .message fault => fault.message

/-- A session before its build. -/
def new (projectDir : Text) (criteria : Artifact.Criteria) : Session :=
  ⟨projectDir, criteria, .idle, .empty, .empty, .empty⟩

/-- Moves to another phase. -/
def advance (s : Session) (p : Phase) : Except Error Unit × Session :=
  if s.phase.next.elem p then (.ok (), { s with phase := p }) else (.error (.order s.phase p), s)

/-- The process is being started. -/
def markSpawning (s : Session) : Except Error Unit × Session := s.advance .spawning

/-- The process runs. -/
def markStreaming (s : Session) : Except Error Unit × Session := s.advance .streaming

/-- The session of a build whose process is being started. -/
def spawning (projectDir : Text) (criteria : Artifact.Criteria) : Session := (new projectDir criteria).markSpawning.2

/-- The session of a build whose process runs. -/
def streaming (projectDir : Text) (criteria : Artifact.Criteria) : Session :=
  (spawning projectDir criteria).markStreaming.2

/-- The line buffer of an output. -/
def buffer (s : Session) : Stream → LineBuffer
  | .stdout => s.stdout
  | .stderr => s.stderr

/-- The session with another line buffer for an output. -/
def setBuffer (s : Session) (b : LineBuffer) : Stream → Session
  | .stdout => { s with stdout := b }
  | .stderr => { s with stderr := b }

/-- Takes lines of an output. -/
def observe (s : Session) (stream : Stream) (lines : List Text) : Except Error Unit × Session :=
  let (result, findings) := s.findings.observeAll stream lines
  (result.mapError .message, { s with findings })

/-- Takes a chunk of an output. -/
def feed (s : Session) (stream : Stream) (chunk : Chunk) : Except Error Unit × Session :=
  if s.phase ≠ .streaming then (.error (.order s.phase .streaming), s)
  else
    let (lines, b) := (s.buffer stream).take chunk
    (s.setBuffer b stream).observe stream lines

/-- Ends an output. -/
def close (s : Session) (stream : Stream) : Except Error Unit × Session :=
  let (lines, b) := (s.buffer stream).finish
  (s.setBuffer b stream).observe stream lines

/-- What an output has sent that is not yet a line; nothing once the buffers are let go. -/
def pending? (s : Session) (stream : Stream) : Option Text :=
  if s.phase.isLast then none else some (s.buffer stream).pending

/-- Lets go of all but the hints. -/
def release (s : Session) : Session :=
  { s with stdout := .empty, stderr := .empty, findings := { Findings.empty with hints := s.findings.hints } }

/-- What is recorded when cargo's own verdict differs from the exit code. -/
def verdictRecords (s : Session) (exitCode : Int) : List Log.Record :=
  match s.findings.reportedSuccess with
  | none => []
  | some reported =>
    if reported = (exitCode = 0 : Bool) then []
    else [⟨Log.session, Log.warning,
      "cargo reported success=" ++ Value.display (.bool reported) ++ " but exited with code " ++ Text.ofInt exitCode ++
        "; using the exit code"⟩]

/-- The outcome of a build whose output has been taken, with what is recorded about it. Only a build that succeeded has
an artifact. -/
def outcome (s : Session) (cwd : Text) (exitCode : Int) : Outcome × List Log.Record :=
  let success : Bool := exitCode = 0
  let artifact := if success then Artifact.resolve s.criteria cwd s.projectDir s.findings.artifacts else none
  let search := if success then [Artifact.record s.criteria artifact] else []
  (⟨success, artifact, s.findings.diagnostics, s.findings.hints, some exitCode⟩,
    s.verdictRecords exitCode ++ search)

/-- Ends the build with an exit code. -/
def finalize (s : Session) (cwd : Text) (exitCode : Int) :
    Except Error (Outcome × List Log.Record) × Session :=
  match s.advance .finalizing with
  | (.error e, s) => (.error e, s)
  | (.ok (), s) =>
    match s.close .stdout with
    | (.error e, s) => (.error e, s)
    | (.ok (), s) =>
      match s.close .stderr with
      | (.error e, s) => (.error e, s)
      | (.ok (), s) => (.ok (s.outcome cwd exitCode), { s.release with phase := .completed })

/-- Ends the build of a process that could not be started. -/
def failToSpawn (s : Session) (command : Text) (error : SpawnError) : Except Error Outcome × Session :=
  match s.advance .failedToSpawn with
  | (.error e, s) => (.error e, s)
  | (.ok (), s) =>
    let hints := Toolchain.record s.findings.hints (some (.notStarted command error))
    (.ok ⟨false, none, .empty, hints, none⟩, { s with findings := { s.findings with hints } }.release)

end Session

end ContractBuild
