import Marginalia.Classification
import Marginalia.LogicalLine
import Marginalia.Run.Failure
import Marginalia.Run.Pipe
import Marginalia.Wire.Message

/-! # Runs
A run feeds one prepared document to one host and passes on what the host reports. It goes through its
states in one direction: idle until the host is started, running until the document is fed, draining
until the host is gone, and terminated. An operation answers with the run after it, what came of it
(`RunReport`), and its outcome. -/

namespace Marginalia

/-- The states of a run. -/
inductive RunState where
  /-- The host is not started. -/
  | idle
  /-- The host is up and nothing is fed. -/
  | running
  /-- The document is fed. -/
  | draining
  /-- The host is gone or told to end. -/
  | terminated
  deriving DecidableEq, Repr

/-- The name of a state. -/
def RunState.name : RunState → String
  | .idle => "idle"
  | .running => "running"
  | .draining => "draining"
  | .terminated => "terminated"

/-- How far a state is in the order of the states. -/
def RunState.rank : RunState → Nat
  | .idle => 0
  | .running => 1
  | .draining => 2
  | .terminated => 3

/-- Why an operation of a run is refused. -/
inductive RunError where
  /-- The run was started before. -/
  | cannotStart (state : RunState)
  /-- The run is not running. -/
  | cannotFeed (state : RunState)
  /-- The host could not be started. -/
  | notStarted (reason : String)
  /-- A marker of the document cannot be read, or the number of a line not written. -/
  | numeral (fault : NumeralError)
  deriving DecidableEq, Repr

/-- The text of the error. -/
def RunError.message : RunError → String
  | .cannotStart state => "Cannot start a driver in state " ++ state.name
  | .cannotFeed state => "Cannot feed a driver in state " ++ state.name
  | .notStarted reason => reason
  | .numeral fault => fault.message

/-- One run. -/
structure Run where
  /-- The number of the run, carried by its events. -/
  id : Int
  /-- The state of the run. -/
  state : RunState
  /-- The physical line of the next logical line. -/
  nextLine : Int
  /-- Whether the host has nothing more to report. -/
  drained : Bool
  /-- Whether printed text is classified before it is passed on. -/
  classifies : Bool
  /-- Whether the receiver of the events fails on each of them. -/
  receiverFails : Bool
  /-- Whether failures of the host are passed on. -/
  passesFailures : Bool
  /-- The pipe to the host. -/
  pipe : Pipe
  deriving Repr

/-- What an operation of a run brings about, in order. -/
structure RunReport where
  /-- The events passed on. -/
  events : List Event
  /-- The failures passed on. -/
  failures : List Failure
  /-- The log records. -/
  logs : List Log.Record
  deriving DecidableEq, Repr

namespace RunReport

/-- Nothing to report. -/
def none : RunReport := ⟨[], [], []⟩

/-- A report of log records alone. -/
def ofLogs (logs : List Log.Record) : RunReport := ⟨[], [], logs⟩

/-- One report after another. -/
def append (first second : RunReport) : RunReport :=
  ⟨first.events ++ second.events, first.failures ++ second.failures, first.logs ++ second.logs⟩

instance : Append RunReport := ⟨append⟩

@[simp] theorem events_append (first second : RunReport) :
    (first ++ second).events = first.events ++ second.events := rfl

@[simp] theorem failures_append (first second : RunReport) :
    (first ++ second).failures = first.failures ++ second.failures := rfl

@[simp] theorem logs_append (first second : RunReport) :
    (first ++ second).logs = first.logs ++ second.logs := rfl

end RunReport

namespace Run

/-- A run that is not started, with a pipe to its host. -/
def fresh (id : Int) (classifies : Bool) (pipe : Pipe) : Run :=
  ⟨id, .idle, 1, false, classifies, false, true, pipe⟩

/-- A log record of the run. -/
def log (run : Run) (level : Log.Level) (text : String) : Log.Record :=
  ⟨.run, level, s!"Run {run.id}: " ++ text⟩

/-- Go from one state to another; a run in any other state stays as it is. -/
def goFrom (run : Run) (source target : RunState) : Run × RunReport :=
  if run.state = source then
    ({ run with state := target },
      .ofLogs [run.log .debug (source.name ++ " -> " ++ target.name)])
  else (run, .none)

/-- Spawn the host. A host that cannot be started ends the run. -/
def spawn (run : Run) : Run × Except RunError Unit :=
  if run.state = .idle then
    match run.pipe.startFault with
    | some reason => ({ run with state := .terminated, drained := true }, .error (.notStarted reason))
    | none => (run, .ok ())
  else (run, .error (.cannotStart run.state))

/-- Note that the host is up, unless the run is over by then. -/
def enter (run : Run) : Run × RunReport := run.goFrom .idle .running

/-- Start the host. -/
def start (run : Run) : Run × RunReport × Except RunError Unit :=
  match run.spawn with
  | (run, .error error) => (run, .none, .error error)
  | (run, .ok ()) =>
    let (run, report) := run.enter
    (run, report, .ok ())

/-! ## Feeding -/

/-- How far feeding came. -/
structure Delivery where
  /-- The number of lines that were accepted. -/
  count : Nat
  /-- The line that was not accepted, if one was not. -/
  stoppedAt : Option Int
  deriving DecidableEq, Repr

/-- Send logical lines until one is not accepted. A line whose number cannot be written breaks the sending
off. -/
def sendLines (run : Run) : List LogicalLine → Run × Except NumeralError Delivery
  | [] => (run, .ok ⟨0, none⟩)
  | logical :: lines =>
    let run := { run with nextLine := logical.next }
    let command := Command.eval logical.line (String.ofList logical.code)
    match command.fault? with
    | some fault => (run, .error fault)
    | none =>
      match run.pipe.send? command with
      | some pipe =>
        let (run, delivered) := sendLines { run with pipe } lines
        (run, delivered.map fun delivery => { delivery with count := delivery.count + 1 })
      | none => (run, .ok ⟨0, some logical.line⟩)

/-- Tell the host that there are no more lines. -/
def sendEnd (run : Run) : Run × RunReport :=
  match run.pipe.send? .endOfInput with
  | some pipe => ({ run with pipe }, .none)
  | none =>
    (run, .ofLogs [run.log .warning ("end of input not delivered: " ++ Pipe.closedText)])

/-- Feed a document and the end of the input, without noting that feeding is over. -/
def deliver (run : Run) (code : List Char) : Run × RunReport × Except RunError Delivery :=
  if run.state = .running then
    match planLines? code run.nextLine with
    | .error fault => (run, .none, .error (.numeral fault))
    | .ok lines =>
      match run.sendLines lines with
      | (run, .error fault) => (run, .none, .error (.numeral fault))
      | (run, .ok delivery) =>
        match delivery.stoppedAt with
        | some line =>
          let text := s!"stopped feeding at line {line}: " ++ Pipe.closedText
          (run, .ofLogs [run.log .warning text], .ok delivery)
        | none =>
          let (run, report) := run.sendEnd
          (run, report, .ok delivery)
  else (run, .none, .error (.cannotFeed run.state))

/-- Note that feeding is over, if all of the document was accepted. -/
def conclude (run : Run) (delivery : Delivery) : Run × RunReport :=
  match delivery.stoppedAt with
  | some _ => (run, .none)
  | none =>
    let (run, report) := run.goFrom .running .draining
    (run, report ++ .ofLogs [run.log .debug s!"fed {delivery.count} logical lines"])

/-- Feed a document, line by line, and then the end of the input; the number of lines accepted. -/
def feed (run : Run) (code : List Char) : Run × RunReport × Except RunError Nat :=
  match run.deliver code with
  | (run, report, .error error) => (run, report, .error error)
  | (run, report, .ok delivery) =>
    let (run, concluded) := run.conclude delivery
    (run, report ++ concluded, .ok delivery.count)

/-! ## Receiving -/

/-- Pass on an event, unless the run is over. -/
def emit (run : Run) (event : Event) : RunReport :=
  if run.state = .terminated then .none
  else
    ⟨[event], [],
      if run.receiverFails then [run.log .error "event sink failed, event dropped"] else []⟩

/-- Pass on an event, classified if the run classifies. -/
def report (run : Run) (event : Event) : RunReport :=
  if run.classifies then
    match event.classify with
    | (some classified, logs) => .ofLogs logs ++ run.emit classified
    | (none, logs) => .ofLogs logs
  else run.emit event

/-- Why an event cannot be passed on, if it cannot: the run classifies it, and that fails. -/
def fault? (run : Run) (event : Event) : Option NumeralError :=
  if run.classifies then event.fault? else none

/-- Take a message of the host; a malformed one is dropped. -/
def receive (run : Run) (message : Message) : Except MessageError (Run × RunReport) :=
  if message.type? = some .drained then .ok ({ run with drained := true }, .none)
  else
    match message.toEvent run.id with
    | .ok none => .ok (run, .none)
    | .ok (some event) =>
      match run.fault? event with
      | none => .ok (run, run.report event)
      | some fault => .error (.unclassified fault)
    | .error fault =>
      if fault.isMalformed then
        .ok (run, .ofLogs [run.log .warning ("dropped malformed message: " ++ fault.message)])
      else .error fault

/-- Whether the host is up. -/
def isLive (run : Run) : Bool := run.state = .running || run.state = .draining

/-- Note that nothing more comes of the host, and perhaps that the run is over: what is noted first when the
host is gone. -/
def hostLeft (run : Run) (ends : Bool) : Run :=
  { run with drained := true, state := if ends then .terminated else run.state }

/-- Note that the host is gone. If nobody asked for it and the host was up, it failed. -/
def hostExited (run : Run) (code : Option Int) (requested : Bool) : Run × RunReport :=
  let ended := { run with state := .terminated, drained := true }
  if requested || !run.isLive then (ended, .none)
  else
    let failure := Failure.ofExit code run.pipe.troubleText
    (ended, ⟨[], if run.passesFailures then [failure] else [], [run.log .error failure.message]⟩)

/-- End the run. -/
def terminate (run : Run) : Run × RunReport :=
  ({ run with state := .terminated, drained := true, pipe := run.pipe.terminate },
    if run.state = .terminated then .none else .ofLogs [run.log .debug "terminating"])

end Run

end Marginalia
