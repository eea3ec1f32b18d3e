import ContractBuild.Cargo.Version
import ContractBuild.Sink.Call

/-!
# Builds

A build starts cargo in the project folder and takes what it writes, read by read, into a session; standard error goes to a
sink as well. When both outputs have ended the sink is flushed and the session gives the outcome. Everything that a build
tells on its way is a list of events, in order. A message that cannot be taken ends the build.
-/

namespace ContractBuild.Cargo

/-- What a build tells on its way: a call to the sink, or a log record. -/
inductive Event where
  | sink (call : Sink.Call)
  | log (record : Log.Record)

namespace Event

/-- The calls to the sink. -/
def sinkCalls (es : List Event) : List Sink.Call :=
  es.filterMap fun
    | .sink c => some c
    | .log _ => none

/-- The log records of the builder itself. -/
def records (es : List Event) : List Log.Record :=
  es.filterMap fun
    | .sink _ => none
    | .log r => some r

end Event

/-- A build: how it ends, what it told on its way, and what was run. -/
structure Build where
  result : Except Failure Outcome
  events : List Event
  run : Option Machine.Run

/-- What is recorded about an outcome. -/
def outcomeRecord (folder : Text) (o : Outcome) (exitCode : Int) : Log.Record :=
  if o.success then record Log.info ("Build succeeded in " ++ folder)
  else record Log.info ("Build failed with exit code " ++ Text.ofInt exitCode ++ ": " ++
    Text.ofNat o.diagnostics.size ++ " diagnostic(s), " ++ Text.ofNat o.toolchainErrors.length ++
    " toolchain error(s)")

/-! ## Taking the output -/

/-- What is kept while cargo runs: the session, and the decoder of what the sink is given. -/
structure Intake where
  session : Session
  decoder : Utf8.State

namespace Intake

/-- The calls that give a text to the sink: none for an empty one. -/
def appendCalls (t : Text) : List Event := if t.isEmpty then [] else [.sink (.append t)]

/-- Takes a read. -/
def take (i : Intake) (p : Piece) : Except Session.Error Unit × List Event × Intake :=
  let (t, decoder) := match p.stream with
    | .stdout => ([], i.decoder)
    | .stderr => Utf8.readAll i.decoder p.bytes
  let (result, session) := i.session.feed p.stream (.bytes p.bytes)
  (result, appendCalls t, ⟨session, decoder⟩)

/-- Takes reads up to one that fails. -/
def takeAll (i : Intake) : List Piece → Except Session.Error Unit × List Event × Intake
  | [] => (.ok (), [], i)
  | p :: rest =>
    match i.take p with
    | (.error e, events, i) => (.error e, events, i)
    | (.ok (), events, i) =>
      let (result, more, i) := i.takeAll rest
      (result, events ++ more, i)

/-- What the sink is given when standard error has ended. -/
def endCalls (i : Intake) : List Event := appendCalls i.decoder.flush ++ [.sink .flush]

/-- Ends a build whose outputs have ended: the sink is flushed, and the session gives the outcome. -/
def finish (cwd folder : Text) (i : Intake) (exitCode : Int) : Except Session.Error Outcome × List Event :=
  match i.session.finalize cwd exitCode with
  | (.error e, _) => (.error e, i.endCalls)
  | (.ok (o, records), _) =>
    (.ok o, i.endCalls ++ (records.map .log ++ [.log (outcomeRecord folder o exitCode)]))

/-- Takes reads and ends the build, up to a read that fails. -/
def complete (cwd folder : Text) (i : Intake) (reads : List Piece) (exitCode : Int) :
    Except Session.Error Outcome × List Event :=
  match i.takeAll reads with
  | (.error e, events, _) => (.error e, events)
  | (.ok (), events, i) =>
    let (result, more) := i.finish cwd folder exitCode
    (result, events ++ more)

end Intake

/-! ## The build -/

/-- Takes the output of a program that runs in `folder`, in reads of at most `size` bytes. Relative paths in messages are
taken from the folder `cwd`. -/
def watch (cwd folder : Text) (size : Int) (s : Session) (p : Program) :
    Except Session.Error Outcome × List Event :=
  Intake.complete cwd folder ⟨s, .start⟩ (p.reads size) p.exitCode

/-- The session of a contract's build that is being started. -/
def spawning (folder : Text) : Session := .spawning folder Artifact.contract

/-- The session of a contract's build that runs. -/
def streaming (folder : Text) : Session := .streaming folder Artifact.contract

/-- Builds the project in a folder. -/
def build (c : Cargo) (m : Machine) (folder : Text) : Build :=
  match c.command with
  | .text command =>
    let begun : List Event := [.sink (.appendLine ("Building contract in: " ++ folder)),
      .log (record Log.info ("Executing cargo command: " ++ Text.joinWith " " (command :: buildArguments)))]
    match m.start folder command buildArguments with
    | .error e =>
      let told : List Event := [.log (record Log.error ("Could not start " ++ command ++ ": " ++ e.message)),
        .sink (.appendLine ("Failed to start " ++ command ++ ": " ++ e.message))]
      ⟨((spawning folder).failToSpawn command (.system e)).1.mapError .session, begun ++ told, none⟩
    | .ok run =>
      let (result, events) := watch m.cwd folder c.chunkSize (streaming folder) run.program
      ⟨result.mapError .session, begun ++ events, run⟩
  | v => ⟨.error (.settings (.notItem v)), [], none⟩

end ContractBuild.Cargo
