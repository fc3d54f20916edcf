import Marginalia.Wire.Command

/-! # The pipe to the host
A run sees its host as a pipe: whether the host can be started, which commands it accepted and how many
it will accept, whether it was told to end, and what it last wrote about its trouble. -/

namespace Marginalia

/-- The host of a run, as far as the run can see it. -/
structure Pipe where
  /-- Why the host cannot be started, if it cannot. -/
  startFault : Option String
  /-- The commands that were accepted, in order. -/
  accepted : List Command
  /-- How many commands are accepted in all; no bound if there is none. -/
  capacity : Option Nat
  /-- Whether the host was told to end. -/
  terminated : Bool
  /-- The last lines that the host wrote about its trouble. -/
  troubleText : String
  deriving Repr

namespace Pipe

/-- The pipe to a host that is not started; its fault and its capacity are given. -/
def fresh (startFault : Option String) (capacity : Option Nat) : Pipe :=
  ⟨startFault, [], capacity, false, ""⟩

/-- Whether one more command is accepted. -/
def isOpen (pipe : Pipe) : Bool :=
  match pipe.capacity with
  | none => true
  | some capacity => pipe.accepted.length < capacity

/-- What is said of a pipe that accepts no more commands. -/
def closedText : String := "pipe closed"

/-- Send a command; nothing if it is not accepted. -/
def send? (pipe : Pipe) (command : Command) : Option Pipe :=
  if pipe.isOpen then some { pipe with accepted := pipe.accepted ++ [command] } else none

/-- Tell the host to end. -/
def terminate (pipe : Pipe) : Pipe := { pipe with terminated := true }

end Pipe

end Marginalia
