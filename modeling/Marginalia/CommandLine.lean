import Marginalia.AnnotatedSource
import Marginalia.CommandLine.Argument
import Marginalia.Json.Writer
import Marginalia.Log.Registry
import Marginalia.Session
import Marginalia.Text.Utf8
import Marginalia.Version

/-! # The command line
One document is evaluated once: it is read, submitted to a session, and printed with its margin. The
status says whether the host failed (2), the request was unusable (1), or neither (0). What comes of the host
is given beforehand: whether it starts, how many commands it accepts, the messages that are taken before the
results are looked at, and whether its end is noticed by then. The host is listened to while the program goes
on, so its end may be noticed at any point, and its failure may be on record only after it was asked for. -/

namespace Marginalia.CommandLine

open Text File

/-- How far a submission has come. -/
inductive Stage where
  /-- The host is spawned. -/
  | spawned
  /-- The host is noted to be up. -/
  | up
  /-- The document is fed. -/
  | fed
  deriving DecidableEq, Repr

/-- How much of the end of a host is noted; what is noted before is noted too. -/
inductive Noted where
  /-- Nothing more is to be waited for. -/
  | drained
  /-- The run is over. -/
  | ended
  /-- The failure is on record. -/
  | failed
  deriving DecidableEq, Repr

/-- What is noticed of the end of a host. -/
structure HostEnd where
  /-- The code with which it ended. -/
  code : Option Int
  /-- The last lines it wrote. -/
  troubleText : String
  /-- How far the submission has come by then. -/
  stage : Stage
  /-- How much is noted before the submission goes on. -/
  noted : Noted
  deriving Repr

/-- What comes of a host. -/
structure HostScript where
  /-- Why the host does not start, if it does not. -/
  startFault : Option String
  /-- How many commands it accepts; no bound if there is none. -/
  capacity : Option Nat
  /-- The messages that are taken before the results are looked at. -/
  messages : List Message
  /-- Whether a message that cannot be taken is reported and passed over. -/
  guarded : Bool
  /-- Its end, if it is noticed before the results are looked at. -/
  ending : Option HostEnd
  deriving Repr

/-- How far the submission has come when the host is heard. -/
def HostScript.stage (script : HostScript) : Stage := (script.ending.map (·.stage)).getD .fed

/-- What surrounds the program. -/
structure Surroundings where
  /-- The files that exist. -/
  tree : Tree
  /-- The bytes of the files that are not empty. -/
  contents : List (Place × List UInt8)
  /-- The variables of the environment. -/
  environment : List (String × String)
  /-- The version of the program. -/
  version : String
  /-- What comes of the host. -/
  host : HostScript
  /-- Why the results cannot be printed, if they cannot: half of a surrogate pair, say, may stand in a text of the
  channel, and the encoding of the output has no place for it. -/
  outputFault : Option String
  deriving Repr

/-- The statuses with which the program ends. -/
inductive Status where
  /-- The document was evaluated. -/
  | evaluated
  /-- The request was unusable. -/
  | unusable
  /-- The host failed. -/
  | hostFailed
  deriving DecidableEq, Repr

/-- The number of a status. -/
def Status.code : Status → Nat
  | .evaluated => 0
  | .unusable => 1
  | .hostFailed => 2

/-- What breaks the program off. -/
inductive Fault where
  /-- A path cannot be looked up. -/
  | lookup (error : LookupError)
  /-- The document is no text. -/
  | undecodable (error : Utf8Error)
  /-- A message of the host reports an event that cannot be. -/
  | message (error : MessageError)
  /-- A number in the prepared document has too many digits. -/
  | numeral (error : NumeralError)
  /-- The time to wait for late results is beyond the clock. -/
  | waiting
  /-- The results cannot be printed. -/
  | unprinted (reason : String)
  deriving Repr

/-- The text of the fault. -/
def Fault.text : Fault → String
  | .lookup error => error.message
  | .undecodable error => error.message
  | .message error => error.message
  | .numeral error => error.message
  | .unprinted reason => reason
  | .waiting => "timestamp out of range for platform time_t"

/-- How the program ends. -/
inductive Ending where
  /-- The command line asked for a text: the help or the version. -/
  | informed
  /-- The command line is wrong. -/
  | refused (error : UsageError)
  /-- The program ran to its end. -/
  | finished (status : Status)
  /-- Something broke the program off. -/
  | brokenOff (fault : Fault)
  deriving Repr

/-- What one call of the program brings about. -/
structure Outcome where
  /-- How it ends. -/
  ending : Ending
  /-- What it prints. -/
  output : String
  /-- The log records, all of them. -/
  logs : List Log.Record
  /-- How much more of the log is shown. -/
  verbosity : Nat
  /-- The session, if there was one. -/
  session : Option Session
  deriving Repr

/-- A log record of the command line. -/
def log (level : Log.Level) (text : String) : Log.Record := ⟨.commandLine, level, text⟩

/-! ## The log on the screen -/

/-- How a record is shown. Where the command line reports to no logger of the program, its own records
are shown bare. -/
def shownRecord (time : String) (bare : Bool) (record : Log.Record) : String :=
  if bare && record.component = .commandLine then record.text ++ "\n"
  else Log.line time record.level record.component.loggerName record.text

/-- The log as it is shown, from the level on that the command line asks for. -/
def Outcome.shownLog (outcome : Outcome) (time : String) (bare : Bool) : String :=
  let level := Log.Registry.levelFor outcome.verbosity
  String.join ((outcome.logs.filter (·.reaches level)).map (shownRecord time bare))

/-! ## Printing -/

/-- An annotation for other programs. -/
def annotationJson (shown : Annotation) : Json :=
  .object [("line", .int shown.line), ("kind", .str shown.kind.name),
    ("shortText", .str shown.short), ("detailValue", .str shown.detail)]

/-- What is printed of a document and its annotations. -/
def printed (json : Bool) (source : List Char) (annotations : List Annotation) : String :=
  let text :=
    if json then (Json.list (annotations.map annotationJson)).renderIndented 0
    else annotatedSource source annotations
  String.ofList (text ++ ['\n'])

/-! ## Evaluating a document -/

/-- A session at work, with its log so far. -/
structure Work where
  /-- The session. -/
  session : Session
  /-- The log records. -/
  logs : List Log.Record
  deriving Repr

/-- Go on with what an operation of the session brought about. -/
def Work.after (work : Work) (step : Session × SessionReport) : Work :=
  ⟨step.1, work.logs ++ step.2.logs⟩

/-- Deliver messages of the host in order. -/
def Work.deliver (work : Work) (place : Nat) (guarded : Bool) : List Message → Work × Option MessageError
  | [] => (work, none)
  | message :: messages =>
    match work.session.receive place message with
    | .ok step => (work.after step).deliver place guarded messages
    | .error error =>
      if guarded then
        let failed := ⟨.child, .error, "Message handler failed"⟩
        { work with logs := work.logs ++ [failed] }.deliver place guarded messages
      else (work, some error)

/-- Note the end of the host, as far as it is noted. -/
def Work.note (work : Work) (place : Nat) (ending : HostEnd) : Work :=
  match ending.noted with
  | .drained => { work with session := work.session.hostLeft place false }
  | .ended => { work with session := work.session.hostLeft place true }
  | .failed => work.after (work.session.hostExited place ending.code ending.troubleText false)

/-- Hear the host, if the submission has come as far as it has to for that. -/
def Work.hear (work : Work) (stage : Stage) (place : Nat) (script : HostScript) :
    Work × Option MessageError :=
  if script.stage = stage then
    match work.deliver place script.guarded script.messages with
    | (work, some error) => (work, some error)
    | (work, none) => ((script.ending.map (work.note place)).getD work, none)
  else (work, none)

/-- How a submission came out. -/
inductive Submitted where
  /-- The document is evaluated. -/
  | evaluated
  /-- The host did not start. -/
  | hostFailed (reason : String)
  /-- Something broke it off. -/
  | brokenOff (fault : Fault)
  deriving Repr

/-- The session refuses what it is asked for. -/
def Work.refused (work : Work) : SessionError → Work × Submitted
  | .lookup error => (work, .brokenOff (.lookup error))
  | .run (.numeral error) => (work, .brokenOff (.numeral error))
  | error => (work, .hostFailed error.message)

/-- Send a document to its host, and note that it is sent. -/
def Work.feed (work : Work) (launch : Session.Launch) (script : HostScript) : Work × Submitted :=
  match work.session.feedRun launch with
  | (session, report, .error error) => Work.refused ⟨session, work.logs ++ report.logs⟩ error
  | (session, report, .ok submission) =>
    match Work.hear ⟨session, work.logs ++ report.logs⟩ .fed launch.place script with
    | (work, some error) => (work, .brokenOff (.message error))
    | (work, none) => (work.after (work.session.conclude submission), .evaluated)

/-- Submit a document and hear its host. -/
def Work.submit (work : Work) (surroundings : Surroundings) (source : List Char) :
    Work × Submitted :=
  let script := surroundings.host
  let pipe := Pipe.fresh script.startFault script.capacity
  match work.session.launch surroundings.tree pipe source none .keep with
  | (session, report, .error error) => Work.refused ⟨session, work.logs ++ report.logs⟩ error
  | (session, report, .ok launch) =>
    match Work.hear ⟨session, work.logs ++ report.logs⟩ .spawned launch.place script with
    | (work, some error) => (work, .brokenOff (.message error))
    | (work, none) =>
      match (work.after (work.session.enterRun launch.place)).hear .up launch.place script with
      | (work, some error) => (work, .brokenOff (.message error))
      | (work, none) => work.feed launch script

/-- The end of a call that had a session: the session is closed. -/
def Work.finish (work : Work) (verbosity : Nat) (output : String) (ending : Ending) : Outcome :=
  let work := work.after work.session.close
  ⟨ending, output, work.logs, verbosity, some work.session⟩

/-- Evaluate a document in a session and print it with its margin. -/
def evaluate (surroundings : Surroundings) (arguments : Arguments) (settings : Settings)
    (path : Path) (source : List Char) : Outcome :=
  let given := (arguments.basePath.map Path.ofText).getD path.parent
  let (session, report) := Session.create settings none (some (surroundings.tree.absolute given))
    (.assign (surroundings.tree.absolute path))
  match (Work.mk session report.logs).submit surroundings source with
  | (work, .brokenOff fault) => work.finish arguments.verbosity "" (.brokenOff fault)
  | (work, .hostFailed reason) =>
    let text := s!"Could not run {path.toString}: " ++ reason
    { work with logs := work.logs ++ [log .error text] }.finish arguments.verbosity ""
      (.finished .hostFailed)
  | (work, .evaluated) =>
    -- Late results are waited for only if some are missing.
    if !work.session.drained && settings.drainTimeout.exceedsClock then
      work.finish arguments.verbosity "" (.brokenOff .waiting)
    else
      let pending :=
        if work.session.drained then []
        else [log .warning s!"Async results still pending after {settings.drainTimeout.text}s"]
      let status := if work.session.lastFailure.isSome then .hostFailed else .evaluated
      let work : Work := { work with logs := work.logs ++ pending }
      match surroundings.outputFault with
      | some reason => work.finish arguments.verbosity "" (.brokenOff (.unprinted reason))
      | none =>
        work.finish arguments.verbosity
          (printed arguments.json source work.session.margin.annotations) (.finished status)

/-- The outcome of a call that comes to no session. -/
def unusable (verbosity : Nat) (text : String) : Outcome :=
  ⟨.finished .unusable, "", [log .error text], verbosity, none⟩

/-- The settings that the environment and the command line give. -/
def settingsFrom (surroundings : Surroundings) (arguments : Arguments) :
    Except SettingsError Settings := do
  let settings ← Settings.fromEnvironment surroundings.environment {}
  settings.withChanges
    { interpreter := arguments.interpreter, drainTimeout := arguments.drainTimeout.map .real }

/-- Do what a command line that is in order asks for. -/
def perform (surroundings : Surroundings) (path : Path) (arguments : Arguments) : Outcome :=
  let brokenOff (fault : Fault) : Outcome :=
    ⟨.brokenOff fault, "", [], arguments.verbosity, none⟩
  match surroundings.tree.filePlace? path with
  | .error error => brokenOff (.lookup error)
  | .ok none => unusable arguments.verbosity ("File not found: " ++ path.toString)
  | .ok (some place) =>
    match settingsFrom surroundings arguments with
    | .error error => unusable arguments.verbosity ("Invalid configuration: " ++ error.message)
    | .ok settings =>
      let bytes := ((surroundings.contents.find? (·.1 == place)).map (·.2)).getD []
      match decodeUtf8 bytes with
      | .error error => brokenOff (.undecodable error)
      | .ok text => evaluate surroundings arguments settings path (normalizeBreaks text)

/-- Call the program with the words of a command line. -/
def run (surroundings : Surroundings) (words : List String) : Outcome :=
  match read words with
  | .error .help => ⟨.informed, helpText, [], 0, none⟩
  | .error .version =>
    ⟨.informed, programName ++ " " ++ surroundings.version ++ "\n", [], 0, none⟩
  | .error (.error error) => ⟨.refused error, "", [], 0, none⟩
  | .ok (path, arguments) => perform surroundings (.ofText path) arguments

end Marginalia.CommandLine
