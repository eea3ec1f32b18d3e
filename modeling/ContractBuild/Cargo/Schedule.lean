import ContractBuild.Cargo.Build

/-!
# The order of arrival

While cargo runs, three things are waited for at once: the end of each output, and the exit code. The reads of an output
come in order, and an empty read is its end; else anything may come before anything. A `Schedule` is one such order.

`Running.receive` is what one arrival does to a build. A read is taken when it comes. The build is finished when both
outputs have ended and the exit code is known, whichever comes last. A read that cannot be taken stops the build, and
nothing that comes behind it counts.
-/

namespace ContractBuild.Cargo

/-- What arrives while cargo runs: a read, which is empty when its output has ended, or the exit code. -/
inductive Arrival where
  | read (p : Piece)
  | exited (code : Int)
deriving DecidableEq

namespace Arrival

/-- The reads of an output, with the empty one at its end. -/
def reads (stream : Stream) (arrivals : List Arrival) : List Bytes :=
  arrivals.filterMap fun
    | .read p => if p.stream = stream then some p.bytes else none
    | .exited _ => none

/-- The exit codes. -/
def exits (arrivals : List Arrival) : List Int :=
  arrivals.filterMap fun
    | .read _ => none
    | .exited code => some code

/-- The reads of both outputs that are not empty. -/
def pieces (arrivals : List Arrival) : List Piece :=
  arrivals.filterMap fun
    | .read p => if p.bytes = [] then none else some p
    | .exited _ => none

end Arrival

/-- How far a build is that runs. -/
inductive Stage where
  | waiting
  | stopped (e : Session.Error)
  | finished (result : Except Session.Error Outcome)

/-- A build that runs: what has been taken, which outputs have ended, the exit code when it is known, what was told on
the way, and how far it is. -/
structure Running where
  intake : Intake
  ended : List Stream
  exitCode : Option Int
  events : List Event
  stage : Stage

namespace Running

/-- A build in a folder from which nothing has arrived. -/
def start (folder : Text) : Running := ⟨⟨streaming folder, .start⟩, [], none, [], .waiting⟩

/-- Finishes the build when nothing is waited for any more. -/
def proceed (cwd folder : Text) (r : Running) : Running :=
  match r.exitCode with
  | none => r
  | some code =>
    if .stdout ∈ r.ended ∧ .stderr ∈ r.ended then
      let (result, events) := r.intake.finish cwd folder code
      { r with events := r.events ++ events, stage := .finished result }
    else r

/-- Takes an arrival. -/
def receive (cwd folder : Text) (r : Running) (a : Arrival) : Running :=
  match r.stage with
  | .waiting =>
    match a with
    | .exited code => { r with exitCode := some code }.proceed cwd folder
    | .read p =>
      if p.stream ∈ r.ended then r
      else if p.bytes = [] then { r with ended := p.stream :: r.ended }.proceed cwd folder
      else
        match r.intake.take p with
        | (.error e, events, i) => { r with intake := i, events := r.events ++ events, stage := .stopped e }
        | (.ok (), events, i) => { r with intake := i, events := r.events ++ events }
  | .stopped _ => r
  | .finished _ => r

/-- Takes arrivals in order. -/
def receiveAll (cwd folder : Text) (r : Running) (arrivals : List Arrival) : Running :=
  arrivals.foldl (receive cwd folder) r

/-- How the build ends, once it has ended. -/
def result? (r : Running) : Option (Except Session.Error Outcome) :=
  match r.stage with
  | .waiting => none
  | .stopped e => some (.error e)
  | .finished result => some result

end Running

/-- An order in which a program is received that writes `output` and exits with `code`: each output in reads that are
not empty (`chunks`), with an empty one at its end, and the exit code once. -/
structure Schedule (output : Stream → Bytes) (code : Int) where
  arrivals : List Arrival
  chunks : Stream → List Bytes
  chunks_ne_nil : ∀ stream, [] ∉ chunks stream
  chunks_flatten : ∀ stream, (chunks stream).flatten = output stream
  reads_eq : ∀ stream, Arrival.reads stream arrivals = chunks stream ++ [[]]
  exits_eq : Arrival.exits arrivals = [code]

namespace Schedule

variable {output : Stream → Bytes} {code : Int}

/-- The build in a folder whose program is received in this order. -/
def run (s : Schedule output code) (cwd folder : Text) : Running :=
  (Running.start folder).receiveAll cwd folder s.arrivals

/-- How that build ends. -/
def result? (s : Schedule output code) (cwd folder : Text) : Option (Except Session.Error Outcome) :=
  (s.run cwd folder).result?

end Schedule

end ContractBuild.Cargo
