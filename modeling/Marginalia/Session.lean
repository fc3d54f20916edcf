import Marginalia.Margin
import Marginalia.Preparation.Document
import Marginalia.Run
import Marginalia.Settings

/-! # Sessions
A session evaluates one document again and again. Each submission ends the run before it, empties the
margin, and feeds the prepared document to a host of its own. Only the current run may change the
margin or report a failure: the number of the current run is compared with the number that an event or
a failure carries, and it changes before the run is replaced. -/

namespace Marginalia

open File

/-- A run of a session and the directory in which its host works. -/
structure HostedRun where
  /-- The run. -/
  run : Run
  /-- The directory of the host; that of the program if there is none. -/
  directory : Option Path
  deriving Repr

/-- A session. -/
structure Session where
  /-- The settings of the session. -/
  settings : Settings
  /-- The margin of the document. -/
  margin : Margin
  /-- The last failure of a current run. -/
  lastFailure : Option Failure
  /-- All runs that were made, the oldest first. -/
  runs : List HostedRun
  /-- The place of the current run among all runs. -/
  current : Option Nat
  /-- The number of the current run. -/
  runId : Int
  /-- Whether the session is closed. -/
  closed : Bool
  /-- Where the document is evaluated. -/
  context : Module.Context
  /-- The receivers of failures, in the order in which they were added. -/
  failureListeners : List Listener
  deriving Repr

/-- What is said about the path of the document. -/
inductive DocumentChange where
  /-- Nothing is said. -/
  | keep
  /-- The document has no path. -/
  | forget
  /-- The document has a path. -/
  | assign (path : Path)
  deriving DecidableEq, Repr

/-- What a given text says about the path of the document. -/
def DocumentChange.ofText? : Option (List Char) → DocumentChange
  | none => .keep
  | some [] => .forget
  | some text => .assign (.ofText text)

/-- What an operation of a session brings about, in order. -/
structure SessionReport where
  /-- The annotations received, with the listener that received them. -/
  published : List (Listener × List Annotation)
  /-- The failures received, with the listener that received them. -/
  failures : List (Listener × Failure)
  /-- The log records. -/
  logs : List Log.Record
  deriving DecidableEq, Repr

namespace SessionReport

/-- Nothing to report. -/
def none : SessionReport := ⟨[], [], []⟩

/-- A report of log records alone. -/
def ofLogs (logs : List Log.Record) : SessionReport := ⟨[], [], logs⟩

/-- The report of a change of the margin. -/
def ofMargin (report : MarginReport) : SessionReport := ⟨report.published, [], report.logs⟩

/-- One report after another. -/
def append (first second : SessionReport) : SessionReport :=
  ⟨first.published ++ second.published, first.failures ++ second.failures,
    first.logs ++ second.logs⟩

instance : Append SessionReport := ⟨append⟩

@[simp] theorem published_append (first second : SessionReport) :
    (first ++ second).published = first.published ++ second.published := rfl

@[simp] theorem failures_append (first second : SessionReport) :
    (first ++ second).failures = first.failures ++ second.failures := rfl

@[simp] theorem logs_append (first second : SessionReport) :
    (first ++ second).logs = first.logs ++ second.logs := rfl

@[simp] theorem none_append (report : SessionReport) : none ++ report = report := rfl

@[simp] theorem append_none (report : SessionReport) : report ++ none = report := by
  obtain ⟨published, failures, logs⟩ := report
  show SessionReport.mk (published ++ []) (failures ++ []) (logs ++ []) = _
  rw [List.append_nil, List.append_nil, List.append_nil]

theorem append_assoc (first second third : SessionReport) :
    first ++ second ++ third = first ++ (second ++ third) := by
  show SessionReport.mk _ _ _ = SessionReport.mk _ _ _
  simp

theorem ofLogs_append (first second : List Log.Record) :
    ofLogs (first ++ second) = ofLogs first ++ ofLogs second := rfl

end SessionReport

/-- Why an operation of a session is refused. -/
inductive SessionError where
  /-- The session is closed. -/
  | closed
  /-- A path could not be looked up while the document was prepared. -/
  | lookup (error : LookupError)
  /-- The run was refused. -/
  | run (error : RunError)
  /-- The margin refused an event. -/
  | refused
  /-- An event could not be classified. -/
  | unclassified (fault : NumeralError)
  deriving DecidableEq, Repr

/-- The text of the error. -/
def SessionError.message : SessionError → String
  | .closed => "Session is closed"
  | .lookup error => error.message
  | .run error => error.message
  | .refused => "table gone"
  | .unclassified fault => fault.message

namespace Session

/-- A log record of the session. -/
def log (level : Log.Level) (text : String) : Log.Record := ⟨.session, level, text⟩

/-! ## The context -/

/-- The context after a change. A document without a project gives its directory as the project. -/
def changeContext (context : Module.Context) (base : Option Path) (document : DocumentChange) :
    Module.Context :=
  let base := base.or context.base
  match document with
  | .keep => ⟨base, context.document⟩
  | .forget => ⟨base, none⟩
  | .assign path => ⟨base.or (some path.parent), some path⟩

/-- Change where the document is evaluated by later runs. -/
def setContext (session : Session) (base : Option Path) (document : DocumentChange) :
    Session × SessionReport :=
  let context := changeContext session.context base document
  let logs := context.base.toList.map fun path => log .info ("Working at: " ++ path.toString)
  ({ session with context }, .ofLogs logs)

/-- The margin a session uses: the given one unless it is empty, then one of its own. -/
def chooseMargin (settings : Settings) : Option Margin → Margin
  | some margin => if margin.annotations.isEmpty then .empty settings.shortLimit else margin
  | none => .empty settings.shortLimit

/-- Set up a session, with a margin if one is given. -/
def create (settings : Settings) (margin : Option Margin) (base : Option Path)
    (document : DocumentChange) : Session × SessionReport :=
  let session : Session :=
    ⟨settings, chooseMargin settings margin, none, [], none, 0, false, ⟨none, none⟩, []⟩
  let (session, report) := session.setContext base document
  (session, .ofLogs [log .info "Initializing REPL session.", log .warning
    "Be careful with CRUD operations: the code runs again on every submission."] ++ report)

/-- Add a receiver of the margin. -/
def addListener (session : Session) (listener : Listener) : Session :=
  { session with margin := session.margin.addListener listener }

/-- Add a receiver of failures. -/
def addFailureListener (session : Session) (listener : Listener) : Session :=
  { session with failureListeners := session.failureListeners ++ [listener] }

/-! ## Runs -/

/-- The run at a place among all runs. -/
def runAt? (session : Session) (place : Nat) : Option Run := session.runs[place]?.map (·.run)

/-- The current run. -/
def currentRun? (session : Session) : Option Run := session.current.bind session.runAt?

/-- The state of the current run. -/
def state (session : Session) : RunState := (session.currentRun?.map (·.state)).getD .idle

/-- Whether the current run has nothing more to report. -/
def drained (session : Session) : Bool := (session.currentRun?.map (·.drained)).getD true

/-- The session with another run at a place among all runs. -/
def setRun (session : Session) (place : Nat) (run : Run) : Session :=
  { session with runs := session.runs.modify place fun hosted => { hosted with run } }

/-- End the current run, if there is one. -/
def stopRun (session : Session) : Session × SessionReport :=
  match session.current with
  | none => (session, .none)
  | some place =>
    let session := { session with current := none }
    match session.runAt? place with
    | none => (session, .none)
    | some run =>
      let (run, report) := run.terminate
      (session.setRun place run, .ofLogs report.logs)

/-! ## Events and failures -/

/-- Whether an event or a failure of a run belongs to the past. -/
def isStale (session : Session) (runId : Int) : Bool := runId != session.runId

/-- Apply an event to the margin, unless it belongs to the past. -/
def apply (session : Session) (event : Event) : Except SessionError (Session × SessionReport) :=
  if session.isStale event.runId then
    .ok (session, .ofLogs [log .debug s!"Dropped event from stale run {event.runId}"])
  else if session.margin.refuses event then .error .refused
  else
    match event.fault? with
    | some fault => .error (.unclassified fault)
    | none =>
      let (margin, report) := session.margin.update event
      .ok ({ session with margin }, .ofMargin report)

/-- Apply an event that a run passed on; one that fails is reported and lost. -/
def applyQueued (session : Session) (event : Event) : Session × SessionReport :=
  match session.apply event with
  | .ok applied => applied
  | .error _ => (session, .ofLogs [log .error "Failed to apply output event"])

/-- Apply events in order. -/
def applyAll (session : Session) : List Event → Session × SessionReport
  | [] => (session, .none)
  | event :: events =>
    let (session, first) := session.applyQueued event
    let (session, others) := session.applyAll events
    (session, first ++ others)

/-- Give a failure to every receiver of failures; one that fails is reported and does not stop the
others. -/
def passOn (session : Session) (failure : Failure) : SessionReport where
  published := []
  failures := session.failureListeners.map fun listener => (listener, failure)
  logs := (session.failureListeners.filter (·.fails)).map fun _ =>
    log .error "Failure listener failed"

/-- Take the failure of a run, unless it belongs to the past. -/
def fail (session : Session) (runId : Int) (failure : Failure) : Session × SessionReport :=
  if session.isStale runId then (session, .none)
  else
    let trouble := failure.troubleText
    let logs := log .error ("[Repl Server] " ++ failure.message) ::
      if trouble.isEmpty then [] else [log .error ("[Repl Server] stderr:\n" ++ trouble)]
    ({ session with lastFailure := some failure }, .ofLogs logs ++ session.passOn failure)

/-- Take failures of a run in order. -/
def failAll (session : Session) (runId : Int) : List Failure → Session × SessionReport
  | [] => (session, .none)
  | failure :: failures =>
    let (session, first) := session.fail runId failure
    let (session, others) := session.failAll runId failures
    (session, first ++ others)

/-- Put a run back at its place and take what it reports. -/
def absorb (session : Session) (place : Nat) (run : Run) (report : RunReport) :
    Session × SessionReport :=
  let (session, applied) := (session.setRun place run).applyAll report.events
  let (session, failed) := session.failAll run.id report.failures
  (session, .ofLogs report.logs ++ applied ++ failed)

/-- Take a message from the host at a place. -/
def receive (session : Session) (place : Nat) (message : Message) :
    Except MessageError (Session × SessionReport) :=
  match session.runAt? place with
  | none => .ok (session, .none)
  | some run => do
    let (run, report) ← run.receive message
    return session.absorb place run report

/-- Note that nothing more comes of the host at a place, and perhaps that its run is over, but no more. -/
def hostLeft (session : Session) (place : Nat) (ends : Bool) : Session :=
  match session.runAt? place with
  | none => session
  | some run => session.setRun place (run.hostLeft ends)

/-- Note that the host at a place is gone, with a code and the last lines it wrote. -/
def hostExited (session : Session) (place : Nat) (code : Option Int) (troubleText : String)
    (requested : Bool) : Session × SessionReport :=
  match session.runAt? place with
  | none => (session, .none)
  | some run =>
    let run := { run with pipe := { run.pipe with troubleText } }
    let (run, report) := run.hostExited code requested
    session.absorb place run report

/-! ## Submissions -/

/-- The preparation of documents as the session sets it up. -/
def setting (session : Session) (tree : Tree) : Preparation.Setting :=
  ⟨tree, session.context, session.settings.consoleFunctions.map String.toList⟩

/-- Make a run the current one, with a pipe to its host. -/
def addRun (session : Session) (pipe : Pipe) : Session :=
  { session with
    runs := session.runs ++ [⟨.fresh session.runId true pipe, session.context.base⟩]
    current := some session.runs.length }

/-- End the run before, with a new number for the next one, and empty the margin. -/
def renew (session : Session) : Session × SessionReport :=
  let (session, stopped) := { session with runId := session.runId + 1 }.stopRun
  let (margin, report) := session.margin.reset
  ({ session with margin }, stopped ++ .ofMargin report)

/-- Spawn the host of the current run; if it cannot be started, the run is over. -/
def spawnHost (session : Session) (place : Nat) (run : Run) :
    Session × SessionReport × Except SessionError Unit :=
  match run.spawn with
  | (run, .ok ()) => (session.setRun place run, .none, .ok ())
  | (run, .error error) =>
    let (session, failed) := (session.setRun place run).fail run.id (.notStarted error.message)
    let (session, stopped) := session.stopRun
    (session, failed ++ stopped, .error (.run error))

/-- A document whose host is spawned. -/
structure Launch where
  /-- The place of its run among all runs. -/
  place : Nat
  /-- The prepared document. -/
  code : List Char
  deriving DecidableEq, Repr

/-- Submit a text up to the point where a new host is spawned for it. -/
def launch (session : Session) (tree : Tree) (pipe : Pipe) (text : List Char)
    (base : Option Path) (document : DocumentChange) :
    Session × SessionReport × Except SessionError Launch :=
  if session.closed then (session, .none, .error .closed)
  else
    let (session, changed) := session.setContext base document
    let (session, renewed) := session.renew
    match Preparation.document (session.setting tree) text with
    | .error error => (session, changed ++ renewed, .error (.lookup error))
    | .ok (code, prepared) =>
      let place := session.runs.length
      let session := session.addRun pipe
      let announced := prepared ++ [log .info
        s!"Starting to interpret {text.length} bytes of code (run {session.runId})"]
      let before := changed ++ renewed ++ .ofLogs announced
      match session.spawnHost place (.fresh session.runId true pipe) with
      | (session, spawned, .error error) => (session, before ++ spawned, .error error)
      | (session, spawned, .ok ()) => (session, before ++ spawned, .ok ⟨place, code⟩)

/-- Note that the host at a place is up. -/
def enterRun (session : Session) (place : Nat) : Session × SessionReport :=
  match session.runAt? place with
  | none => (session, .none)
  | some run =>
    let (run, report) := run.enter
    (session.setRun place run, .ofLogs report.logs)

/-- What a submission has sent when all its lines are sent. -/
structure Submission where
  /-- The number of the run. -/
  runId : Int
  /-- The place of the run among all runs. -/
  place : Nat
  /-- How far feeding came. -/
  delivery : Run.Delivery
  deriving DecidableEq, Repr

/-- Send a document to its host. -/
def feedRun (session : Session) (launch : Launch) :
    Session × SessionReport × Except SessionError Submission :=
  match session.runAt? launch.place with
  | none => (session, .none, .error (.run (.cannotFeed .idle)))
  | some run =>
    let (run, report, delivered) := run.deliver launch.code
    (session.setRun launch.place run, .ofLogs report.logs,
      match delivered with
      | .ok delivery => .ok ⟨session.runId, launch.place, delivery⟩
      | .error error => .error (.run error))

/-- Submit a text up to the point where all of it is sent to a new host. -/
def deliver (session : Session) (tree : Tree) (pipe : Pipe) (text : List Char)
    (base : Option Path) (document : DocumentChange) :
    Session × SessionReport × Except SessionError Submission :=
  match session.launch tree pipe text base document with
  | (session, launched, .error error) => (session, launched, .error error)
  | (session, launched, .ok launch) =>
    let (session, entered) := session.enterRun launch.place
    let (session, fed, result) := session.feedRun launch
    (session, launched ++ entered ++ fed, result)

/-- Note that a submission is sent. -/
def conclude (session : Session) (submission : Submission) : Session × SessionReport :=
  match session.runAt? submission.place with
  | none => (session, .none)
  | some run =>
    let (run, report) := run.conclude submission.delivery
    (session.setRun submission.place run, .ofLogs report.logs)

/-- Submit a text: the number of the new run. -/
def submit (session : Session) (tree : Tree) (pipe : Pipe) (text : List Char)
    (base : Option Path) (document : DocumentChange) :
    Session × SessionReport × Except SessionError Int :=
  match session.deliver tree pipe text base document with
  | (session, report, .error error) => (session, report, .error error)
  | (session, report, .ok submission) =>
    let (session, concluded) := session.conclude submission
    (session, report ++ concluded, .ok submission.runId)

/-- Close the session: it ends the current run and takes no more submissions. -/
def close (session : Session) : Session × SessionReport :=
  if session.closed then (session, .none)
  else
    let (session, stopped) :=
      { session with closed := true, runId := session.runId + 1 }.stopRun
    (session, .ofLogs [log .info "Disposing REPL session."] ++ stopped)

end Session

end Marginalia
