import Marginalia.Number.Numeral
import Marginalia.Script.Value
import Marginalia.Settings

/-! # Setup of the host
What the host takes from its environment when it comes up: how deep values are shown in full, and which
functions of the console print with the line of their call. -/

namespace Marginalia

/-- The setup of a host. -/
structure HostSetup where
  /-- The level below which objects are not shown; all are shown if there is none. -/
  depth : Option Int
  /-- The functions of the console that print with the line of their call. -/
  functions : List String
  deriving DecidableEq, Repr

namespace HostSetup

/-- The depth where the environment gives none. -/
def standardDepth : Int := 2

/-- The level that a number stands for: what is no number, or is above all numbers, is no level. -/
def levelOf : Binary64 → Option Int
  | .nan | .infinite false => none
  | .infinite true => some (-1)
  | number => number.floor?

/-- The depth that a variable of the environment gives. -/
def depthOf (text : String) : Option Int :=
  if text.isEmpty then some standardDepth else levelOf (.ofScript text.toList)

/-- Cut a text at its commas. -/
def commaParts : List Char → List (List Char)
  | [] => [[]]
  | ',' :: rest => [] :: commaParts rest
  | c :: rest =>
    match commaParts rest with
    | part :: parts => (c :: part) :: parts
    | [] => [[c]]

/-- The names that a variable of the environment gives, each once. -/
def functionsOf (text : String) : List String :=
  if text.isEmpty then Settings.defaultConsoleFunctions
  else
    let names := (commaParts text.toList).filter (!·.isEmpty)
    (Script.inScriptOrder ((names.map String.ofList).eraseDups.map fun name => (name, ()))).map (·.1)

/-- The setup that an environment gives. -/
def ofEnvironment (environment : List (String × String)) : HostSetup :=
  let valueOf (name : String) : String := ((environment.find? (·.1 == name)).map (·.2)).getD ""
  ⟨depthOf (valueOf Settings.depthVariable), functionsOf (valueOf Settings.functionsVariable)⟩

end HostSetup

end Marginalia
