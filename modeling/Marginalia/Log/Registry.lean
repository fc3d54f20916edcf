import Marginalia.Log.Record
import Marginalia.Log.Template

/-! # Loggers
Loggers form a tree by the dots in their names, below one root. A record reaches the handlers of its
logger and of the loggers above it, up to one that keeps its records to itself, if the level in force
at its logger lets it pass; each handler has a level of its own. -/

namespace Marginalia.Log

/-- The level of a name, as a rank; the name of no level has rank zero. -/
def rankOf? (name : String) : Option Nat :=
  if name = "NOTSET" then some 0
  else ([Level.debug, .info, .warning, .error, .critical].find? (·.name == name)).map Level.rank

/-- The name of a rank. -/
def rankName (rank : Nat) : String :=
  (([Level.debug, .info, .warning, .error, .critical].find? (·.rank == rank)).map Level.name).getD
    "NOTSET"

/-- Where a handler puts the records it gets. -/
inductive Sink where
  /-- A queue, by its name. -/
  | queue (name : String)
  /-- A stream, by its number. -/
  | stream (number : Nat)
  deriving DecidableEq, Repr

/-- A handler of records. -/
structure Handler where
  /-- The number that tells it from other handlers. -/
  number : Nat
  /-- Where it puts the records. -/
  sink : Sink
  /-- The least rank of a record that it takes. -/
  rank : Nat
  deriving DecidableEq, Repr

/-- A logger. -/
structure Logger where
  /-- Its own level as a rank; zero if it has none. -/
  rank : Nat
  /-- Its handlers, in the order in which they were added. -/
  handlers : List Handler
  /-- Whether its records go on to the logger above. -/
  propagates : Bool
  deriving DecidableEq, Repr

/-- A logger that nothing was done with. -/
def Logger.plain : Logger := ⟨0, [], true⟩

/-- The way from a logger up to the root: the parts of its name, the last one first. -/
abbrev LoggerPath := List (List Char)

/-- The path of a name; the root has two names. -/
def LoggerPath.ofName (name : String) : LoggerPath :=
  if name.isEmpty || name == "root" then [] else (split name.toList).reverse
where
  /-- Cut a text at its dots. -/
  split : List Char → List (List Char)
    | [] => [[]]
    | c :: rest =>
      if c = '.' then [] :: split rest
      else
        match split rest with
        | [] => [[c]]
        | part :: parts => (c :: part) :: parts

/-- The loggers that something was done with. -/
structure Registry where
  /-- The loggers and their paths. -/
  loggers : List (LoggerPath × Logger)
  /-- The number of the next handler. -/
  nextHandler : Nat
  deriving DecidableEq, Repr

/-- What a sink gets from a record. -/
structure Delivery where
  /-- The sink. -/
  sink : Sink
  /-- The name of the logger of the record. -/
  loggerName : String
  /-- The level of the record. -/
  level : Level
  /-- The text of the record. -/
  text : String
  deriving DecidableEq, Repr

/-- The name of a level in a queue, where details of the work count as the normal course. -/
def Level.queueName : Level → String
  | .debug => Level.info.name
  | level => level.name

/-- A record on a stream, behind the time of day. -/
def Delivery.line (time : String) (delivery : Delivery) : String :=
  Log.line time delivery.level delivery.loggerName delivery.text

namespace Registry

/-- The name of the logger of the program. -/
def programLogger : String := "inline_repl"

/-- The registry before anything is done: the root lets warnings pass. -/
def initial : Registry := ⟨[([], { Logger.plain with rank := Level.warning.rank })], 0⟩

/-- The logger at a path. -/
def get (registry : Registry) (path : LoggerPath) : Logger :=
  ((registry.loggers.find? (·.1 == path)).map (·.2)).getD .plain

/-- Change the logger at a path. -/
def modify (registry : Registry) (path : LoggerPath) (change : Logger → Logger) : Registry :=
  { registry with
    loggers := (path, change (registry.get path)) :: registry.loggers.filter (·.1 != path) }

/-- The rank in force at a path: that of the nearest logger on the way up that has one. -/
def effectiveRank (registry : Registry) : LoggerPath → Nat
  | [] => (registry.get []).rank
  | part :: above =>
    let own := (registry.get (part :: above)).rank
    if own = 0 then registry.effectiveRank above else own

/-- The handlers that records of a path reach. -/
def handlersFrom (registry : Registry) : LoggerPath → List Handler
  | [] => (registry.get []).handlers
  | part :: above =>
    let logger := registry.get (part :: above)
    logger.handlers ++ if logger.propagates then registry.handlersFrom above else []

/-- Set the level of a logger. -/
def setRank (registry : Registry) (name : String) (rank : Nat) : Registry :=
  registry.modify (.ofName name) fun logger => { logger with rank }

/-- Add a handler that puts records into a queue, and let records of its rank pass. -/
def attachQueue (registry : Registry) (queue loggerName : String) (rank : Nat) :
    Registry × Handler :=
  let path := LoggerPath.ofName loggerName
  let handler : Handler := ⟨registry.nextHandler, .queue queue, rank⟩
  let passes := registry.effectiveRank path ≤ rank
  let added := registry.modify path fun logger =>
    { logger with
      handlers := logger.handlers ++ [handler]
      rank := if passes then logger.rank else rank }
  ({ added with nextHandler := registry.nextHandler + 1 }, handler)

/-- Remove a handler from a logger. -/
def detach (registry : Registry) (handler : Handler) (loggerName : String) : Registry :=
  registry.modify (.ofName loggerName) fun logger =>
    { logger with handlers := logger.handlers.filter (· != handler) }

/-- The least level that is shown for a number of requests to show more. -/
def levelFor (verbosity : Int) : Level :=
  if 2 ≤ verbosity then .debug else if verbosity = 1 then .info else .warning

/-- Send the records of the program to a stream, and nowhere else. -/
def sendToStream (registry : Registry) (number : Nat) (verbosity : Int) : Registry :=
  let handler : Handler := ⟨registry.nextHandler, .stream number, 0⟩
  let changed := registry.modify (.ofName programLogger) fun _ =>
    ⟨(levelFor verbosity).rank, [handler], false⟩
  { changed with nextHandler := registry.nextHandler + 1 }

/-- What the sinks get from a message; nothing if its arguments do not fit. -/
def log (registry : Registry) (loggerName : String) (level : Level) (template : String)
    (arguments : List Json) : List Delivery :=
  let path := LoggerPath.ofName loggerName
  if level.rank < registry.effectiveRank path then []
  else
    match Template.fill? template arguments with
    | none => []
    | some text =>
      ((registry.handlersFrom path).filter (·.rank ≤ level.rank)).map fun handler =>
        ⟨handler.sink, loggerName, level, text⟩

end Registry

end Marginalia.Log
