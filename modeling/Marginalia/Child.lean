import Marginalia.File.Path
import Marginalia.Log.Record
import Marginalia.Settings
import Marginalia.Text.Blank
import Marginalia.Wire.Command
import Marginalia.Wire.Message

/-! # The child that hosts a run
A host runs as a child of the program: commands go to its input, messages come from its output, and what
it writes about its trouble is kept, the last lines of it. Starting it waits for the message that it is
ready; ending it asks it to exit and kills it if it stays. How a particular child behaves is given by
its `ChildBehaviour`. -/

namespace Marginalia

open Text File

/-- How a child behaves. -/
structure ChildBehaviour where
  /-- The error of the system, by number and text, if the child cannot be spawned. -/
  spawnFault : Option (Int × String)
  /-- The number of the child in the system. -/
  number : Nat
  /-- The lines that its output holds from the start. -/
  output : List (List Char)
  /-- The lines about its trouble that are there from the start. -/
  trouble : List (List Char)
  /-- The code with which it ends right after those lines, if it does. -/
  bootExit : Option Int
  /-- Whether it goes on after the command to exit. -/
  ignoresExit : Bool
  /-- Whether closing its input fails. -/
  closeFails : Bool
  /-- Whether nobody reads its input, from the beginning. -/
  ignoresInput : Bool
  deriving DecidableEq, Repr

/-- The input of a child. -/
inductive ChildInput where
  /-- It takes what is written. -/
  | intact
  /-- Nobody reads it. -/
  | broken
  /-- It is closed. -/
  | closed
  deriving DecidableEq, Repr

/-- What the system says of writing to an input that does not take it. -/
def ChildInput.fault? : ChildInput → Option String
  | .intact => none
  | .broken => some "[Errno 32] Broken pipe"
  | .closed => some "I/O operation on closed file."

/-- A child that was spawned. -/
structure SpawnedChild where
  /-- The number of the child in the system. -/
  number : Nat
  /-- The code with which it ended; nothing while it lives. -/
  exitCode : Option Int
  /-- Its input. -/
  input : ChildInput
  /-- Whether it was killed. -/
  killed : Bool
  /-- Whether its output is still read. -/
  reading : Bool
  deriving DecidableEq, Repr

/-- The child as it is spawned. -/
def ChildBehaviour.spawn (behaviour : ChildBehaviour) : SpawnedChild :=
  ⟨behaviour.number, none, if behaviour.ignoresInput then .broken else .intact, false, true⟩

/-- The child of one run. -/
structure Child where
  /-- The settings of the session. -/
  settings : Settings
  /-- The directory in which the child works; that of the program if there is none. -/
  directory : Option Path
  /-- How the child behaves. -/
  behaviour : ChildBehaviour
  /-- The child, once it is spawned. -/
  spawned : Option SpawnedChild
  /-- The last lines about its trouble. -/
  troubleLines : List (List Char)
  /-- Whether it said that it is ready. -/
  ready : Bool
  /-- The version of the interpreter, as it was last reported. -/
  version : Json
  /-- Whether it was asked to end. -/
  exitRequested : Bool
  deriving Repr

/-- What an operation on a child brings about, in order. -/
structure ChildReport where
  /-- The messages handed on. -/
  messages : List Message
  /-- The ends of the child that were noticed: the code, and whether the end was asked for. -/
  exits : List (Int × Bool)
  /-- The lines written to its input. -/
  written : List (List Char)
  /-- The log records. -/
  logs : List Log.Record
  deriving Repr

namespace ChildReport

/-- Nothing to report. -/
def none : ChildReport := ⟨[], [], [], []⟩

/-- A report of log records alone. -/
def ofLogs (logs : List Log.Record) : ChildReport := ⟨[], [], [], logs⟩

/-- One report after another. -/
def append (first second : ChildReport) : ChildReport :=
  ⟨first.messages ++ second.messages, first.exits ++ second.exits,
    first.written ++ second.written, first.logs ++ second.logs⟩

instance : Append ChildReport := ⟨append⟩

@[simp] theorem messages_append (first second : ChildReport) :
    (first ++ second).messages = first.messages ++ second.messages := rfl

@[simp] theorem exits_append (first second : ChildReport) :
    (first ++ second).exits = first.exits ++ second.exits := rfl

@[simp] theorem written_append (first second : ChildReport) :
    (first ++ second).written = first.written ++ second.written := rfl

@[simp] theorem logs_append (first second : ChildReport) :
    (first ++ second).logs = first.logs ++ second.logs := rfl

end ChildReport

/-- Why an operation on a child fails. -/
inductive ChildError where
  /-- The system cannot spawn the interpreter. -/
  | cannotSpawn (interpreter : String) (number : Int) (text : String)
  /-- The child did not say in time that it is ready. -/
  | notReady (timeout : Seconds) (troubleText : String)
  /-- The child was never spawned. -/
  | notSpawned
  /-- A command could not be written. -/
  | notWritten (command : String) (fault : String)
  /-- A field of a command has a name that no field can have. -/
  | nameTaken (name : String)
  /-- A number in a command cannot be written. -/
  | numeral (fault : NumeralError)
  deriving DecidableEq, Repr

/-- The text of the error. -/
def ChildError.message : ChildError → String
  | .cannotSpawn interpreter number text =>
    s!"Could not start '{interpreter}': [Errno {number}] {text}"
  | .notReady timeout troubleText =>
    s!"REPL host did not become ready within {timeout.text}s" ++
      if troubleText.isEmpty then "" else ": " ++ troubleText
  | .notSpawned => "REPL host is not running"
  | .notWritten command fault => s!"Could not send '{command}' to REPL host: {fault}"
  | .nameTaken name => s!"ReplProcess.send() got multiple values for argument '{name}'"
  | .numeral fault => fault.message

namespace Child

/-- A child that is not spawned. -/
def fresh (settings : Settings) (directory : Option Path) (behaviour : ChildBehaviour) : Child :=
  ⟨settings, directory, behaviour, none, [], false, .null, false⟩

/-- A log record of the child. -/
def log (level : Log.Level) (text : String) : Log.Record := ⟨.child, level, text⟩

/-! ## How it is spawned and looked at -/

/-- The command that spawns the child, for a host script. -/
def command (child : Child) (script : String) : List String :=
  child.settings.interpreter :: (child.settings.interpreterArguments ++ [script])

/-- The variables that the host script reads from the environment. -/
def environment (child : Child) : List (String × String) :=
  [(Settings.depthVariable, toString child.settings.inspectDepth),
    (Settings.functionsVariable, ",".intercalate child.settings.consoleFunctions)]

/-- Whether the child lives. -/
def isAlive (child : Child) : Bool := child.spawned.any (·.exitCode.isNone)

/-- Whether the child was killed. -/
def isKilled (child : Child) : Bool := child.spawned.any (·.killed)

/-- The last lines about the trouble of the child, as one text. -/
def troubleText (child : Child) : String :=
  String.ofList (['\n'].intercalate child.troubleLines)

/-- The child with its spawned part changed. -/
def change (child : Child) (how : SpawnedChild → SpawnedChild) : Child :=
  { child with spawned := child.spawned.map how }

/-! ## Reading -/

/-- How many lines about its trouble are kept. -/
def troubleLimit : Nat := 20

/-- The last of some lines, as many as are kept. -/
def lastLines (lines : List (List Char)) : List (List Char) :=
  lines.drop (lines.length - troubleLimit)

/-- Take a line about the trouble of the child; a blank one is dropped. -/
def readTrouble (child : Child) (line : List Char) : Child × ChildReport :=
  let line := trimEnd line
  if line.isEmpty then (child, .none)
  else ({ child with troubleLines := lastLines (child.troubleLines ++ [line]) },
    .ofLogs [log .debug ("[repl stderr] " ++ String.ofList line)])

/-- Take a message: one that says that the child is ready is noted, any other is handed on, to a
receiver that may fail on it. -/
def take (child : Child) (fails : Message → Bool) (message : Message) : Child × ChildReport :=
  if message.type? = some .ready then
    ({ child with ready := true, version := message.get "node" }, .none)
  else
    (child, ⟨[message], [], [],
      if fails message then [log .error "Message handler failed"] else []⟩)

/-- Take a line of the child's output. A blank one is dropped and so is one that is no message, with a
warning; one whose type cannot even be looked up ends the reading. -/
def readLine (child : Child) (fails : Message → Bool) (line : List Char) : Child × ChildReport :=
  if child.spawned.any (·.reading) then
    let line := trim line
    if line.isEmpty then (child, .none)
    else
      match Message.decode line with
      | .ok message => child.take fails message
      | .error fault =>
        if fault.isMalformed then
          (child, .ofLogs [log .warning ("Dropped message: " ++ fault.message)])
        else (child.change fun spawned => { spawned with reading := false }, .none)
  else (child, .none)

/-- Take several lines, each with the given reader. -/
def readEach (read : Child → List Char → Child × ChildReport) :
    Child → List (List Char) → Child × ChildReport
  | child, [] => (child, .none)
  | child, line :: lines =>
    let (child, first) := read child line
    let (child, others) := readEach read child lines
    (child, first ++ others)

/-- Take lines of the child's output. -/
def readLines (child : Child) (fails : Message → Bool) (lines : List (List Char)) :
    Child × ChildReport :=
  readEach (fun child line => child.readLine fails line) child lines

/-- Take lines about the trouble of the child. -/
def readTroubles (child : Child) (lines : List (List Char)) : Child × ChildReport :=
  readEach readTrouble child lines

/-- Note that the child ended, if it lives: its end is reported once all its output is read. -/
def ended (child : Child) (code : Int) : Child × ChildReport :=
  match child.spawned with
  | some spawned =>
    if spawned.exitCode.isNone then
      ({ child with spawned := some { spawned with exitCode := some code, reading := false } },
        ⟨[], if spawned.reading then [(code, child.exitRequested)] else [], [], []⟩)
    else (child, .none)
  | none => (child, .none)

/-! ## Writing and ending -/

/-- Write the line of a command to the child; the command to exit ends a child that does not ignore it. -/
def write (child : Child) (command : Command) (line : List Char) : Child × ChildReport :=
  let (child, report) :=
    if command.name = Command.exit.name ∧ ¬ child.behaviour.ignoresExit then child.ended 0
    else (child, .none)
  (child, ⟨[], [], [line], []⟩ ++ report)

/-- Send a command to the child. -/
def send (child : Child) (command : Command) : Child × ChildReport × Except ChildError Unit :=
  let refused (error : ChildError) : Child × ChildReport × Except ChildError Unit :=
    (child, .none, .error error)
  match command.takenName?, child.spawned, command.encode with
  | some name, _, _ => refused (.nameTaken name)
  | none, none, _ => refused .notSpawned
  | none, some _, .error fault => refused (.numeral fault)
  | none, some spawned, .ok line =>
    match spawned.input.fault? with
    | some fault => refused (.notWritten command.name fault)
    | none =>
      let (child, report) := child.write command line
      (child, report, .ok ())

/-- The exit code of a child that was killed. -/
def killedCode : Int := -9

/-- Kill the child if it lives. -/
def kill (child : Child) : Child × ChildReport :=
  match child.spawned with
  | some spawned =>
    if spawned.exitCode.isNone then
      let text := s!"REPL host (pid={spawned.number}) ignored exit request, killing"
      let (child, report) := (child.change fun spawned => { spawned with killed := true }).ended
        killedCode
      (child, .ofLogs [log .warning text] ++ report)
    else (child, .none)
  | none => (child, .none)

/-- Ask the child to exit if it lives. -/
def askToExit (child : Child) : Child × ChildReport :=
  if child.isAlive then
    match child.send .exit with
    | (child, report, .ok ()) => (child, report)
    | (child, report, .error error) =>
      (child, report ++ .ofLogs [log .debug ("Exit request not delivered: " ++ error.message)])
  else (child, .none)

/-- Close the input of the child, and whether that worked: the input is closed in either case. -/
def closeInput (child : Child) : Child × Bool :=
  (child.change fun spawned => { spawned with input := .closed }, !child.behaviour.closeFails)

/-- End the child: ask it, kill it if it stays, and close its input. -/
def terminate (child : Child) : Child × ChildReport :=
  if child.spawned.isNone then (child, .none)
  else
    let (child, asked) := { child with exitRequested := true }.askToExit
    let (child, killed) := child.kill
    (child.closeInput.1, asked ++ killed)

/-- Spawn the child and take what is there from the start. -/
def boot (child : Child) (fails : Message → Bool) : Child × ChildReport :=
  let opened := { child with spawned := some child.behaviour.spawn }
  let (child, troubles) := opened.readTroubles child.behaviour.trouble
  let (child, lines) := child.readLines fails child.behaviour.output
  let (child, last) := match child.behaviour.bootExit with
    | some code => child.ended code
    | none => (child, .none)
  (child, troubles ++ lines ++ last)

/-- Start the child and wait until it is ready; a child that does not get ready is ended. -/
def start (child : Child) (fails : Message → Bool) :
    Child × ChildReport × Except ChildError Unit :=
  match child.behaviour.spawnFault with
  | some (number, text) =>
    (child, .none, .error (.cannotSpawn child.settings.interpreter number text))
  | none =>
    let (child, report) := child.boot fails
    if child.ready then (child, report, .ok ())
    else
      let error := ChildError.notReady child.settings.startupTimeout child.troubleText
      let (child, terminated) := child.terminate
      (child, report ++ terminated, .error error)

end Child

end Marginalia
