import ContractBuild.CommandLine.Arguments
import ContractBuild.Json.Printer
import ContractBuild.Project
import ContractBuild.Screen.Output
import ContractBuild.Sink.Logged
import ContractBuild.Sink.Progress

/-!
# What commands do

A command gives an exit code, or a failure, together with all that it did until then: what it printed, what it asked the
screen to show, what was recorded, and what was run. A build is either printed as JSON or shown on the screen; there its
status follows what cargo says, and is stopped before the report. The exit code of a build is zero when there is a contract
to deploy.

`Action.buildOnScreen` and `Action.verify` say what is shown where everything can be. `Action.buildOn` and `Action.on` show
it on an output: a command is given up at the first call that fails, but the screen of a build that has begun is closed.
-/

namespace ContractBuild.CommandLine

/-- Why a command is given up: cargo cannot be used, or something cannot be shown. -/
inductive Failure where
  | cargo (failure : Cargo.Failure)
  | screen (fault : Screen.Fault)

/-- The wording of a failure. -/
def Failure.message : Failure → Text
  | .cargo e => e.message
  | .screen f => f.message

/-- What a command did. -/
structure Action where
  result : Except Failure Int
  stdout : Text
  screen : Option Screen.Kind
  calls : List Screen.Call
  records : List Log.Record
  run : Option Machine.Run

namespace Action

/-- A command that fails before it shows anything. -/
def failed (e : Settings.Error) : Action := ⟨.error (.cargo (.settings e)), [], none, [], [], none⟩

/-! ## Builds -/

/-- The exit code of a report. -/
def exitCode (r : Report) : Int := if r.outcome.readyToDeploy then 0 else 1

/-- The exit code when the folder is no project. -/
def invalidProject : Int := 2

/-- The records of events, where the log takes the calls to the sink. -/
def recordsFrom (sink : Sink.Logged) : List Cargo.Event → List Log.Record
  | [] => []
  | .log r :: rest => r :: recordsFrom sink rest
  | .sink c :: rest =>
    let (records, sink) := sink.call c
    records ++ recordsFrom sink rest

/-- The records of all that a build told. -/
def recordsOf (events : List Cargo.Event) : List Log.Record := recordsFrom (.start Log.info) events

/-- A build that is printed as JSON. -/
def buildAsJson (m : Machine) (settings : Value) (folder : Text) : Action :=
  match Cargo.forCommand settings with
  | .error e => failed e
  | .ok cargo =>
    let b := Project.build m folder (cargo.build m)
    let done (result : Except Failure Int) (stdout : Text) : Action :=
      ⟨result, stdout, none, [], recordsOf b.events, b.run⟩
    match b.result with
    | .invalid e =>
      done (.ok invalidProject) (Json.print .spaced (.map [("error", .text e.message)]) ++ "\n")
    | .failed e => done (.error (.cargo e)) []
    | .built r => done (.ok (exitCode r)) r.outcome.document

/-! ## Builds on the screen -/

/-- The label of a build. -/
def label (m : Machine) (folder : Text) : Text := "Building " ++ Path.baseName (Path.absolute m.cwd folder)

/-- The status that a build starts with. -/
def opening (m : Machine) (folder : Text) : Screen.Call := .status (label m folder ++ "...")

/-- The status texts of events. -/
def updates (label : Text) (events : List Cargo.Event) : List Screen.Call :=
  ((Sink.Progress.start label).statuses (Cargo.Event.sinkCalls events)).map .update

/-- The answer to a folder that is no project. -/
def refusal (e : Project.Invalid) : Screen.Call := .log ("Invalid contract folder: " ++ e.message) .error

/-- What the screen shows of a build that has ended, while its status is still there. -/
def refusals : Project.Result → List Screen.Call
  | .invalid e => [refusal e]
  | .failed _ | .built _ => []

/-- How the screen is closed behind a build. -/
def closing : List Screen.Call := [.stop, .close]

/-- What the screen shows of a build that has ended, after its status. -/
def reports (m : Machine) : Project.Result → List Screen.Call
  | .invalid _ | .failed _ => []
  | .built r => r.calls m.cwd

/-- What the screen is asked to do when a build has ended. -/
def endCalls (m : Machine) (r : Project.Result) : List Screen.Call := refusals r ++ closing ++ reports m r

/-- The exit code of a build that has ended. -/
def endCode : Project.Result → Except Failure Int
  | .invalid _ => .ok invalidProject
  | .failed e => .error (.cargo e)
  | .built r => .ok (exitCode r)

/-- A build that is shown on a screen that takes every call. -/
def buildOnScreen (m : Machine) (settings : Value) (folder : Text) : Action :=
  match Screen.chooseForCommand settings with
  | .error e => failed e
  | .ok (kind, chosen) =>
    match Cargo.forCommand settings with
    | .error e => { failed e with screen := kind, calls := [opening m folder], records := chosen }
    | .ok cargo =>
      let b := Project.build m folder (cargo.build m)
      ⟨endCode b.result, [], kind, opening m folder :: updates (label m folder) b.events ++ endCalls m b.result,
        chosen ++ recordsOf b.events, b.run⟩

/-- What became of the events of a build: those that came to pass, and the calls for them. -/
structure Followed where
  events : List Cargo.Event
  taken : Screen.Taken

/-- The status texts for an event. -/
def tell (progress : Sink.Progress) : Cargo.Event → List Text × Sink.Progress
  | .sink c => progress.call c
  | .log _ => ([], progress)

/-- Lets the status follow the events of a build, up to a status text that cannot be shown. -/
def follow (out : Screen.Output) (progress : Sink.Progress) (d : Screen.Display) : List Cargo.Event → Followed
  | [] => ⟨[], out.take d []⟩
  | e :: es =>
    let (texts, progress) := tell progress e
    let shown := out.take d (texts.map .update)
    let rest := follow out progress shown.display es
    ⟨e :: if shown.fault.isNone then rest.events else [], shown.andThen rest.taken⟩

/-- The result of a command when something could not be shown. -/
def resultOn (fault : Option Screen.Fault) (result : Except Failure Int) : Except Failure Int :=
  match fault with
  | some f => .error (.screen f)
  | none => result

/-- A build that is shown on an output. -/
def buildOn (out : Screen.Output) (m : Machine) (settings : Value) (folder : Text) : Action :=
  match Screen.chooseForCommand settings with
  | .error e => failed e
  | .ok (kind, chosen) =>
    let opened := out.take (.start kind) [opening m folder]
    match opened.fault, Cargo.forCommand settings with
    | some f, _ => ⟨.error (.screen f), [], kind, opened.calls, chosen, none⟩
    | none, .error e => { failed e with screen := kind, calls := opened.calls, records := chosen }
    | none, .ok cargo =>
      let b := Project.build m folder (cargo.build m)
      let followed := follow out (.start (label m folder)) opened.display b.events
      let shown := out.goOn (out.close (out.goOn followed.taken (refusals b.result)) closing) (reports m b.result)
      ⟨resultOn shown.fault (endCode b.result), [], kind, opened.calls ++ shown.calls, chosen ++ recordsOf followed.events,
        b.run⟩

/-! ## Verification -/

/-- The table of how cargo is run, and what was found out about it. -/
def verificationCalls (command : Value) (v : Cargo.Verdict) : List Screen.Call :=
  let row (name : Text) (cell : Value) : Screen.Call := .addRow [.text name, cell]
  let result : Screen.Call :=
    if v.verified then .log "cargo is available" .success
    else .log ("cargo could not be verified; is `" ++ command.display ++ "` installed and on PATH?") .error
  [.table ["Setting", "Value"] (some "Build configuration"), row "Command" command,
    row "Arguments" (.text (Text.joinWith " " Cargo.buildArguments)), row "Target" (.text Toolchain.target),
    row "Version" (.text v.message), .render, result, .close]

/-- Shows how cargo is run and whether it can be. -/
def verify (m : Machine) (settings : Value) : Action :=
  match Screen.chooseForCommand settings with
  | .error e => failed e
  | .ok (kind, chosen) =>
    match Cargo.forCommand settings with
    | .error e => { failed e with screen := kind, records := chosen }
    | .ok cargo =>
      let v := cargo.verify m
      let records := chosen ++ v.records
      match v.result with
      | .error e => ⟨.error (.cargo e), [], kind, [], records, v.run⟩
      | .ok verdict =>
        ⟨.ok (if verdict.verified then 0 else 1), [], kind, verificationCalls cargo.command verdict, records, v.run⟩

/-- A command whose calls come last, shown on an output. -/
def on (out : Screen.Output) (a : Action) : Action :=
  match a.screen with
  | none => a
  | some kind =>
    let shown := out.take (.start kind) a.calls
    { a with result := resultOn shown.fault a.result, calls := shown.calls }

/-- Does what a command asks for, where the screen writes to an output. -/
def ofCommand (out : Screen.Output) (m : Machine) (settings : Value) : Command → Action
  | .build folder true => buildAsJson m settings folder
  | .build folder false => buildOn out m settings folder
  | .verify => (verify m settings).on out

end Action

end ContractBuild.CommandLine
