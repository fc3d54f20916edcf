/-! # Log records
What the program reports about itself: a level, the component that reports, and a text. -/

namespace Marginalia.Log

/-- How much a record matters, from least to most. -/
inductive Level where
  /-- Details of the work. -/
  | debug
  /-- The normal course of events. -/
  | info
  /-- Something that may need attention. -/
  | warning
  /-- Something failed. -/
  | error
  /-- The program cannot go on. -/
  | critical
  deriving DecidableEq, Repr

/-- The name of a level. -/
def Level.name : Level → String
  | .debug => "DEBUG"
  | .info => "INFO"
  | .warning => "WARNING"
  | .error => "ERROR"
  | .critical => "CRITICAL"

/-- The rank of a level; zero is left for a logger without a level of its own. -/
def Level.rank : Level → Nat
  | .debug => 10
  | .info => 20
  | .warning => 30
  | .error => 40
  | .critical => 50

/-- The parts of the program that report. -/
inductive Component where
  /-- The resolution of required modules. -/
  | modulePaths
  /-- The preparation of a document. -/
  | preparation
  /-- The classification of printed text. -/
  | classification
  /-- The annotation table. -/
  | table
  /-- One run of the interpreter. -/
  | run
  /-- The interpreter's child. -/
  | child
  /-- The session. -/
  | session
  /-- The command line. -/
  | commandLine
  deriving DecidableEq, Repr

/-- The name of the logger that a component reports to. -/
def Component.loggerName : Component → String
  | .modulePaths => "inline_repl.rewriter.module_paths"
  | .preparation => "inline_repl.rewriter.pipeline"
  | .classification => "inline_repl.core.classification"
  | .table => "inline_repl.correlator.correlator"
  | .run => "inline_repl.driver.driver"
  | .child => "inline_repl.driver.process"
  | .session => "inline_repl.session"
  | .commandLine => "inline_repl.cli"

/-- One report. -/
structure Record where
  /-- Who reports. -/
  component : Component
  /-- How much it matters. -/
  level : Level
  /-- What is reported. -/
  text : String
  deriving DecidableEq, Repr

/-- Whether a record is at least at a level. -/
def Record.reaches (record : Record) (level : Level) : Bool := level.rank ≤ record.level.rank

/-- The line that shows a report on a stream, behind the time of day. -/
def line (time : String) (level : Level) (loggerName text : String) : String :=
  s!"[{time}] {level.name} {loggerName}: {text}\n"

end Marginalia.Log
