import Marginalia.Number.Shortest
import Marginalia.Text.Blank
import Marginalia.Text.Category
import Marginalia.Text.Quoted

/-! # Settings
The settings of a session. They are checked when they are put together (`Settings.validate`), and the
first setting out of range in a fixed order decides the error. -/

namespace Marginalia

open Text

/-- A duration in seconds, whole or with a fraction. -/
inductive Seconds where
  /-- A whole number of seconds. -/
  | whole (count : Int)
  /-- Any number of seconds. -/
  | real (value : Binary64)
  deriving DecidableEq, Repr

/-- The text of a duration. -/
def Seconds.text : Seconds → String
  | .whole count => toString count
  | .real value => String.ofList (diagnosticLayout.text value)

/-- Whether a duration is zero or below. -/
def Seconds.isAtMostZero : Seconds → Bool
  | .whole count => count ≤ 0
  | .real value => value.isAtMostZero

/-- The nanoseconds of a second. -/
def nanoseconds : Nat := 1000000000

/-- The least number of nanoseconds that the clock cannot count: two to the power of 63. -/
def clockLimit : Nat := 9223372036854775808

/-- Whether a duration is so long that the clock cannot count its nanoseconds. -/
def Seconds.exceedsClock : Seconds → Bool
  | .whole count => clockLimit ≤ count * nanoseconds
  | .real value => (value.times nanoseconds).reaches clockLimit

/-- The settings of a session. -/
structure Settings where
  /-- The program that interprets the document. -/
  interpreter : String
  /-- The functions of the console whose calls are tagged. -/
  consoleFunctions : List String
  /-- How long the interpreter may take to get ready. -/
  startupTimeout : Seconds
  /-- How long to wait for late results. -/
  drainTimeout : Seconds
  /-- How long the interpreter may take to end. -/
  terminateTimeout : Seconds
  /-- How deep values are shown in full. -/
  inspectDepth : Int
  /-- The limit of the short texts in the margin. -/
  shortLimit : Int
  /-- Arguments of the interpreter in front of the host script. -/
  interpreterArguments : List String
  deriving DecidableEq, Repr

/-- Changes to some settings. -/
structure SettingsChanges where
  /-- A new interpreter. -/
  interpreter : Option String := none
  /-- New functions of the console. -/
  consoleFunctions : Option (List String) := none
  /-- A new time to get ready. -/
  startupTimeout : Option Seconds := none
  /-- A new time to wait for late results. -/
  drainTimeout : Option Seconds := none
  /-- A new time to end. -/
  terminateTimeout : Option Seconds := none
  /-- A new depth. -/
  inspectDepth : Option Int := none
  /-- A new limit. -/
  shortLimit : Option Int := none
  /-- New arguments. -/
  interpreterArguments : Option (List String) := none
  deriving DecidableEq, Repr

/-- Whether no setting changes. -/
def SettingsChanges.isEmpty (changes : SettingsChanges) : Bool :=
  changes == ({} : SettingsChanges)

/-- The timeouts among the settings. -/
inductive TimeoutName where
  /-- The time to get ready. -/
  | startup
  /-- The time to wait for late results. -/
  | drain
  /-- The time to end. -/
  | terminate
  deriving DecidableEq, Repr

/-- The name of a timeout. -/
def TimeoutName.text : TimeoutName → String
  | .startup => "startup_timeout"
  | .drain => "drain_timeout"
  | .terminate => "terminate_timeout"

/-- Why settings are refused. -/
inductive SettingsError where
  /-- There is no interpreter. -/
  | noInterpreter
  /-- There are no functions of the console. -/
  | noConsoleFunctions
  /-- A function of the console is no identifier. -/
  | badFunction (name : String)
  /-- A timeout is not above zero. -/
  | timeoutNotPositive (timeout : TimeoutName)
  /-- The depth is below zero. -/
  | depthNegative
  /-- The limit is too small. -/
  | limitTooSmall
  deriving DecidableEq, Repr

/-- The text of the error. -/
def SettingsError.message : SettingsError → String
  | .noInterpreter => "node_executable must not be empty"
  | .noConsoleFunctions => "console_functions must not be empty"
  | .badFunction name => "Invalid console function name: " ++ quotedString name
  | .timeoutNotPositive timeout => timeout.text ++ " must be positive"
  | .depthNegative => "inspect_depth must be non-negative"
  | .limitTooSmall => "max_short_text must be at least 4"

namespace Settings

/-- The functions of the console that are tagged where none are given. -/
def defaultConsoleFunctions : List String := ["log", "debug", "info", "warn", "error"]

/-- The settings where none are given. -/
def standard : Settings where
  interpreter := "node"
  consoleFunctions := defaultConsoleFunctions
  startupTimeout := .real (.ofRatio false 5 1)
  drainTimeout := .real (.ofRatio false 5 1)
  terminateTimeout := .real (.ofRatio false 2 1)
  inspectDepth := 2
  shortLimit := 120
  interpreterArguments := []

/-- The first fault of the settings, in the order in which they are checked. -/
def fault? (settings : Settings) : Option SettingsError :=
  if settings.interpreter.isEmpty then some .noInterpreter
  else if settings.consoleFunctions.isEmpty then some .noConsoleFunctions
  else
    match settings.consoleFunctions.find? fun name => !isIdentifier name.toList with
    | some name => some (.badFunction name)
    | none =>
      if settings.startupTimeout.isAtMostZero then some (.timeoutNotPositive .startup)
      else if settings.drainTimeout.isAtMostZero then some (.timeoutNotPositive .drain)
      else if settings.terminateTimeout.isAtMostZero then some (.timeoutNotPositive .terminate)
      else if settings.inspectDepth < 0 then some .depthNegative
      else if settings.shortLimit < 4 then some .limitTooSmall
      else none

/-- The settings themselves, if they have no fault. -/
def validate (settings : Settings) : Except SettingsError Settings :=
  match settings.fault? with
  | some fault => .error fault
  | none => .ok settings

/-- The settings with some of them replaced, not checked. -/
def change (settings : Settings) (changes : SettingsChanges) : Settings where
  interpreter := changes.interpreter.getD settings.interpreter
  consoleFunctions := changes.consoleFunctions.getD settings.consoleFunctions
  startupTimeout := changes.startupTimeout.getD settings.startupTimeout
  drainTimeout := changes.drainTimeout.getD settings.drainTimeout
  terminateTimeout := changes.terminateTimeout.getD settings.terminateTimeout
  inspectDepth := changes.inspectDepth.getD settings.inspectDepth
  shortLimit := changes.shortLimit.getD settings.shortLimit
  interpreterArguments := changes.interpreterArguments.getD settings.interpreterArguments

/-- The settings given by some values, the others as they are where none are given. -/
def make? (values : SettingsChanges) : Except SettingsError Settings :=
  (standard.change values).validate

/-- The settings with some of them replaced. -/
def withChanges (settings : Settings) (changes : SettingsChanges) : Except SettingsError Settings :=
  if changes.isEmpty then .ok settings else (settings.change changes).validate

/-- The variable of the environment that names the interpreter. -/
def interpreterVariable : String := "INLINE_REPL_NODE"

/-- The variable of the environment that tells the host how deep values are shown in full. -/
def depthVariable : String := "INLINE_REPL_INSPECT_DEPTH"

/-- The variable of the environment that tells the host which functions of the console are tagged. -/
def functionsVariable : String := "INLINE_REPL_CONSOLE_FUNCTIONS"

/-- The settings given by some values, the interpreter from the environment if no value names it. -/
def fromEnvironment (environment : List (String × String)) (values : SettingsChanges) :
    Except SettingsError Settings :=
  let named := strip (((environment.find? (·.1 == interpreterVariable)).map (·.2)).getD "")
  if named.isEmpty || values.interpreter.isSome then make? values
  else make? { values with interpreter := some named }

end Settings

end Marginalia
