import Marginalia.Json.Writer

/-! # Commands
What is sent to the host: a name and some fields, one command a line. The host knows three commands: to
evaluate a logical line, to note the end of the input, and to exit. -/

namespace Marginalia

/-- A command for the host. -/
structure Command where
  /-- The name of the command. -/
  name : String
  /-- The fields of the command, in the order in which they are written. -/
  fields : List (String × Json)
  deriving Repr

namespace Command

/-- Evaluate the text of a logical line. -/
def eval (line : Int) (code : String) : Command := ⟨"eval", [("line", .int line), ("code", .str code)]⟩

/-- There are no more lines. -/
def endOfInput : Command := ⟨"end", []⟩

/-- Exit. -/
def exit : Command := ⟨"exit", []⟩

/-- The names that no field of a command can have: the sender goes by the one, the name of the command by the
other. -/
def takenNames : List String := ["self", "op"]

/-- The first name of a field that no field can have. -/
def takenName? (command : Command) : Option String := (command.fields.map (·.1)).find? (takenNames.contains ·)

/-- A command as a wire value: its name comes first. -/
def toJson (command : Command) : Json := .object (("op", .str command.name) :: command.fields)

/-- The line that carries a command, without the line feed that ends it. -/
def line (command : Command) : List Char := command.toJson.render

/-- Why a command has no line, if it has none: one of its integers cannot be written. -/
def fault? (command : Command) : Option NumeralError :=
  if command.toJson.isWritten then none else some .unwritable

/-- The line that carries a command, with the line feed that ends it. -/
def encode (command : Command) : Except NumeralError (List Char) :=
  match command.fault? with
  | none => .ok (command.line ++ ['\n'])
  | some fault => .error fault

end Command

end Marginalia
