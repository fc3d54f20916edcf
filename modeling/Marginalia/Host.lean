import Marginalia.Host.Action
import Marginalia.Host.Setup
import Marginalia.Json.Rounded
import Marginalia.Marker
import Marginalia.Script.Description
import Marginalia.Script.Formatted
import Marginalia.Wire.Command
import Marginalia.Wire.Report

/-! # The host
The host stands between the channel and an interpreter. It carries out its commands one after the
other: an evaluation is asked of the interpreter and is over when it is *settled*, by an answer or by the
report of an uncaught error while it is being asked for; only then the next command starts. Text that
is only the beginning of a statement stays in a buffer for the next evaluation. A value that is a
promise, or an object that a promise can adopt, is reported when the promise is settled, and when the end of the
input is noted and no such report is missing, the host says that it is drained.

What the interpreter does is given as data (`Action`): the actions of an evaluation are scheduled in
advance, and others may happen between the commands. -/

namespace Marginalia

open Script

/-- An evaluation that was asked for. -/
structure Evaluation where
  /-- The line that was told with it. -/
  line : ToldLine
  /-- The text that the interpreter was asked to evaluate. -/
  text : List Char
  /-- Whether it is over. -/
  settled : Bool
  deriving Repr

/-- The host. -/
structure Host where
  /-- What the host took from its environment. -/
  setup : HostSetup
  /-- The line of the evaluation that was asked for last. -/
  currentLine : ToldLine
  /-- The beginning of a statement that needs more lines. -/
  buffer : List Char
  /-- The line on which that statement begins. -/
  openLine : ToldLine
  /-- The evaluations that were asked for, in their order. -/
  evaluations : List Evaluation
  /-- The evaluation that the report of an uncaught error ends. -/
  settler : Option Nat
  /-- Whether an evaluation is being asked for: the interpreter has not come back from it. -/
  asking : Bool
  /-- The commands that have not started, in the order in which they came. -/
  waiting : List Json
  /-- What the interpreter will do for the next evaluations. -/
  scheduled : List (List Action)
  /-- Why no command starts any more, if that is so. -/
  breakdown : Option Value
  /-- The promises of the script. -/
  promises : Promises
  /-- How many promises were made for objects to wait for. -/
  made : Nat
  /-- The promises to report, with the lines whose evaluation gave them. -/
  awaited : List (PromiseId × ToldLine)
  /-- The settled promises to report, in the order in which they were settled. -/
  due : List (ToldLine × Settlement)
  /-- How many reports of promises are missing. -/
  pending : Nat
  /-- What was thrown where nothing handles it, until it comes to the surface. -/
  unhandled : List Value
  /-- Whether the end of the input is noted. -/
  ended : Bool
  /-- Whether the host said that it is drained. -/
  drained : Bool
  /-- The messages that were sent. -/
  sent : List Message
  /-- The codes with which the host asked to exit. -/
  exits : List Int
  deriving Repr

namespace Host

/-- A host that is up. -/
def start (version : String) (setup : HostSetup) : Host where
  setup := setup
  currentLine := some (.int 0)
  buffer := []
  openLine := some (.int 0)
  evaluations := []
  settler := none
  asking := false
  waiting := []
  scheduled := []
  breakdown := none
  promises := []
  made := 0
  awaited := []
  due := []
  pending := 0
  unhandled := []
  ended := false
  drained := false
  sent := [.ready version]
  exits := []

/-- The texts that the interpreter was asked to evaluate. -/
def evaluated (host : Host) : List (List Char) := host.evaluations.map (·.text)

/-! ## Messages -/

/-- Send a message. -/
def send (host : Host) (message : Message) : Host := { host with sent := host.sent ++ [message] }

@[simp] theorem sent_send (host : Host) (message : Message) :
    (host.send message).sent = host.sent ++ [message] := rfl

/-- Send printed text, on the line that is current. -/
def sendOutput (host : Host) (text : String) : Host := host.send (.output host.currentLine text)

/-- How the host describes values. -/
def describer (host : Host) : Describer := ⟨host.setup.depth, host.promises⟩

/-- Send a value. -/
def sendValue (host : Host) (line : ToldLine) (value : Value) : Host :=
  host.send (.result line (host.describer.ofValue value))

/-- What is printed of an error that nothing handles: its stack, if it has one. -/
def surfaceText (host : Host) (thrown : Value) : String :=
  let stack := thrown.member "stack"
  "Uncaught " ++
    if stack.isTruthy then stack.asText
    else String.ofList (Inspection.inspect .standard host.promises thrown)

/-- Send an error that nothing handles. -/
def sendSurfaced (host : Host) (thrown : Value) : Host := host.sendOutput (host.surfaceText thrown)

/-- Send all errors that nothing handled. -/
def surfaceAll (host : Host) : Host := { host.unhandled.foldl sendSurfaced host with unhandled := [] }

/-- Say that the host is drained, if it is and did not say so before. -/
def endIfDrained (host : Host) : Host :=
  if host.ended && host.pending == 0 && !host.drained then
    { host with drained := true }.send .drained
  else host

/-! ## Promises -/

/-- Settle a promise; the reports of it are due. -/
def settlePromise (host : Host) (id : PromiseId) (settlement : Settlement) : Host :=
  { host with
    promises := host.promises.setState id (.settled settlement)
    awaited := host.awaited.filter (·.1 != id)
    due := host.due ++ (host.awaited.filter (·.1 == id)).map fun (_, line) => (line, settlement) }

/-- Note where a promise stands; the reports of one that is settled are due. -/
def setPromise (host : Host) (id : PromiseId) : PromiseState → Host
  | .settled settlement => host.settlePromise id settlement
  | state => { host with promises := host.promises.setState id state }

/-- Decide a promise that stands where it may be decided; any other one stays as it is. -/
def decide (host : Host) (id : PromiseId) (mayDecide : PromiseState → Bool) (settlement : Settlement) : Host :=
  if mayDecide (host.promises.state id) then host.setPromise id (Promises.resolution id settlement) else host

/-- Settle the promises that follow settled ones, through at most a number of links. -/
def settleFollowers : Nat → Host → Host
  | 0, host => host
  | fuel + 1, host =>
    settleFollowers fuel (host.promises.followers.foldl
      (fun host (id, settlement) => host.settlePromise id settlement) host)

/-- Send the report of a settled promise. A missing value says nothing, and what cannot be described fails where
nothing handles it. -/
def sendSettlement (host : Host) (line : ToldLine) : Settlement → Host
  | .fulfilled value => if value.isMissing then host else host.sendValue line value
  | .rejected reason =>
    match host.describer.ofThrown reason with
    | .ok descriptor => host.send (.error line descriptor)
    | .error fault => { host with unhandled := host.unhandled ++ [fault] }
  | .unreadable _ thrown => { host with unhandled := host.unhandled ++ [thrown] }

/-- Send all reports that are due. -/
def sendDue (host : Host) : Host :=
  let sent := host.due.foldl (fun host (line, settlement) => host.sendSettlement line settlement) host
  { sent with due := [], pending := host.pending - host.due.length }.endIfDrained

/-- Send all reports of promises that are settled by now. -/
def deliver (host : Host) : Host := (settleFollowers host.promises.length host).sendDue

/-! ## Evaluations -/

/-- Whether the evaluation that was asked for last is not over. -/
def isBusy (host : Host) : Bool := host.evaluations.getLast?.any fun evaluation => !evaluation.settled

/-- End an evaluation, if it is not over; its text may stay in the buffer. -/
def settle (host : Host) (number : Nat) (keepsText : Bool) : Host :=
  match host.evaluations[number]? with
  | some evaluation =>
    if evaluation.settled then host
    else
      { host with
        evaluations := host.evaluations.set number { evaluation with settled := true }
        settler := none
        buffer := if keepsText then evaluation.text else [] }
  | none => host

/-- Count something to wait for. -/
def count (host : Host) : Host := { host with pending := host.pending + 1 }

/-- Wait for a promise, or take its report for due if it is settled. -/
def await (host : Host) (line : ToldLine) (id : PromiseId) : Host :=
  match host.promises.settlement? id with
  | some settlement => { host.count with due := host.due ++ [(line, settlement)] }
  | none => { host.count with awaited := host.awaited ++ [(id, line)] }

/-- Make a promise that adopts an object to wait for. -/
def adopt (host : Host) : Host :=
  { host with promises := host.promises.setState (.made host.made) .adopting, made := host.made + 1 }

/-- Report a value, or wait for it if it is something to wait for: an object that is no promise is adopted by a
promise that is made for it. -/
def report (host : Host) (line : ToldLine) (value : Value) : Host :=
  match value with
  | .missing => host
  | .promise number => host.await line (.told number)
  | value => if value.isThenable then host.adopt.await line (.made host.made) else host.sendValue line value

/-- Take an answer to an evaluation: report what it says and end the evaluation. What cannot be reported is not,
and the evaluation is not ended. -/
def complete (host : Host) (number : Nat) (line : ToldLine) : Answer → Host × Option Value
  | .recoverable => (host.settle number true, none)
  | .error thrown =>
    if thrown.isTruthy then
      match host.describer.ofThrown thrown with
      | .ok descriptor => ((host.send (.error line descriptor)).settle number false, none)
      | .error fault => (host, some fault)
    else (host.settle number false, none)
  | .value value => ((host.report line value).settle number false, none)
  | .unreportable counted thrown => (if counted then host.count else host, some thrown)

/-- Take a text that the interpreter prints. While an evaluation is being asked for and is not over, the
report of an uncaught error ends it. -/
def takePrinted (host : Host) (text : String) : Host :=
  match host.settler with
  | some number =>
    if host.asking && UncaughtReport.opens text.toList then
      (host.send (.error host.currentLine (UncaughtReport.describe text.toList))).settle number false
    else host.sendOutput text
  | none => host.sendOutput text

/-- What is thrown by a call of something that is no function. -/
def notCallable (name : String) : Value := .typeFault (name ++ " is not a function")

/-- The text that a function of the tagging console prints. -/
def consoleText (host : Host) (line : Value) (arguments : List Value) : String :=
  String.ofList (Marker.betweenTagMarks line.asText.toList ++
    (Formatter.format ⟨host.setup.depth, host.promises⟩ arguments ++ ['\n']))

/-- Take an answer to the evaluation of a number, if one was asked for. -/
def takeAnswer (host : Host) (number : Nat) (answer : Answer) : Host × Option Value :=
  match host.evaluations[number]? with
  | some evaluation => host.complete number evaluation.line answer
  | none => (host, some (notCallable "callback"))

/-- Take an action of the interpreter. The action may throw. -/
def act (host : Host) : Action → Host × Option Value
  | .answer answer => host.takeAnswer (host.evaluations.length - 1) answer
  | .answerTo number answer => host.takeAnswer number answer
  | .throw thrown => (host, some thrown)
  | .print text => (host.takePrinted text, none)
  | .write text next =>
    let host := host.sendOutput text
    ((next.map host.sendOutput).getD host, none)
  | .log function line arguments =>
    if host.setup.functions.contains function then
      (host.sendOutput (host.consoleText line arguments), none)
    else (host, some (notCallable function))
  | .decide number settlement => (host.decide (.told number) PromiseState.isPending settlement, none)
  | .callBack id settlement => (host.decide id PromiseState.isAdopting settlement, none)
  | .surface thrown => (host.sendSurfaced thrown, none)

/-- Take some actions of the interpreter, up to the first one that throws. -/
def actAll : Host → List Action → Host × Option Value
  | host, [] => (host, none)
  | host, action :: actions =>
    match host.act action with
    | (host, none) => actAll host actions
    | (host, some thrown) => (host, some thrown)

/-- What the interpreter does for an evaluation where nothing is scheduled. -/
def unscheduled : List Action := [.answer (.value .missing)]

/-- Ask for an evaluation: of the text behind what is in the buffer. -/
def ask (host : Host) (line : ToldLine) (code : List Char) : Host :=
  { host with
    openLine := if host.buffer.isEmpty then line else host.openLine
    currentLine := line
    evaluations := host.evaluations ++ [⟨line, host.buffer ++ code ++ ['\n'], false⟩]
    settler := some host.evaluations.length
    asking := true
    scheduled := host.scheduled.tail }

/-- The interpreter comes back from what it was asked for. Nothing starts any more if it throws before the
evaluation is over. -/
def comeBack (host : Host) (thrown : Option Value) : Host :=
  { host with
    asking := false
    breakdown := if host.isBusy then thrown.or host.breakdown else host.breakdown }

/-- Ask for an evaluation, which the interpreter carries out as far as it does so at once. -/
def evaluate (host : Host) (line : ToldLine) (code : List Char) : Host :=
  let (after, thrown) := (host.ask line code).actAll (host.scheduled.headD unscheduled)
  after.comeBack thrown

/-! ## Commands -/

/-- The error of a statement that the end of the input cuts off. -/
def cutOffError (text : List Char) : ErrorDescriptor :=
  ⟨"SyntaxError", "Unexpected end of input", String.ofList text⟩

/-- Note the end of the input. A statement that is only begun is an error on its first line. -/
def finish (host : Host) : Host :=
  let closed : Host :=
    if host.buffer.isEmpty then host
    else { host.send (.error host.openLine (cutOffError host.buffer)) with buffer := [] }
  { closed with ended := true }.endIfDrained

/-- What is said of a line that is no command. -/
def malformedText (line : List Char) : String :=
  String.ofList ("inline-repl: malformed command ".toList ++ line)

/-- What is said of a command whose name is not known. -/
def unknownText (name : Option Json) : String :=
  let text := (name.bind fun name => (Serialized.ofValue (.ofJson name)).text?).getD "undefined".toList
  String.ofList ("inline-repl: unknown command ".toList ++ text)

/-- What is thrown where a command has no members to look at. -/
def memberlessFault : Value := .typeFault "Cannot read properties of null (reading 'op')"

/-- Exit with a code; the host goes on until it is gone. -/
def exit (host : Host) (code : Int) : Host := { host with exits := host.exits ++ [code] }

/-- What a command asks for. -/
inductive Request where
  /-- To evaluate a text on a line. -/
  | evaluate (line : ToldLine) (code : List Char)
  /-- To note the end of the input. -/
  | finish
  /-- To exit. -/
  | exit
  /-- Something that the host does not know, by its name if it has one. -/
  | unknown (name : Option Json)
  /-- Nothing: it fails to be read. -/
  | broken (fault : Value)
  deriving Repr

/-- The text that a command asks to evaluate, if it has one. -/
def codeOf (command : Json) : Except Value String :=
  (((command.get? "code").map Value.ofJson).getD .missing).toText

/-- What a command asks for. -/
def Request.read (command : Json) : Request :=
  match command with
  | .null => .broken memberlessFault
  | command =>
    match command.get? "op" with
    | some (.str "eval") =>
      match codeOf command with
      | .ok code => .evaluate (command.get? "line") code.toList
      | .error fault => .broken fault
    | some (.str "end") => .finish
    | some (.str "exit") => .exit
    | name => .unknown name

/-- Carry out a command. -/
def handle (host : Host) (command : Json) : Host :=
  match Request.read command with
  | .evaluate line code => host.evaluate line code
  | .finish => host.finish
  | .exit => host.exit 0
  | .unknown name => host.sendOutput (unknownText name)
  | .broken fault => { host with breakdown := some fault }

/-- A breakdown takes the commands that wait with it, and nothing handles it. -/
def dropWaiting (host : Host) (reason : Value) : Host :=
  { host with waiting := [], unhandled := host.unhandled ++ [reason] }

/-- Carry out commands, as far as evaluations are over; the others wait. -/
def advance (host : Host) : List Json → Host
  | [] => { host with waiting := [] }
  | command :: commands =>
    match host.breakdown with
    | some reason => host.dropWaiting reason
    | none =>
      if host.isBusy then { host with waiting := command :: commands }
      else
        let after := ({ host with waiting := commands }.handle command).deliver
        match after.breakdown with
        | some reason => after.dropWaiting reason
        | none => after.advance commands

/-- Take one more command. -/
def take (host : Host) (command : Json) : Host :=
  (host.advance (host.waiting ++ [command.rounded])).surfaceAll

/-- Take a line from the channel. -/
def takeLine (host : Host) (line : List Char) : Host :=
  match Json.read? Json.strictDialect line with
  | some command => host.take command
  | none => host.sendOutput (malformedText line)

/-- The channel is closed. -/
def close (host : Host) : Host := host.exit 0

/-- Schedule what the interpreter does for an evaluation to come. -/
def schedule (host : Host) (actions : List Action) : Host :=
  { host with scheduled := host.scheduled ++ [actions] }

/-- Take some actions of the interpreter between commands, one right after the other, and everything that
follows from them. -/
def observeAll (host : Host) (actions : List Action) : Host × Option Value :=
  let (after, thrown) := host.actAll actions
  let delivered := after.deliver
  ((delivered.advance delivered.waiting).surfaceAll, thrown)

/-- Take an action of the interpreter between commands, and everything that follows from it. -/
def observe (host : Host) (action : Action) : Host × Option Value := host.observeAll [action]

end Host

end Marginalia
