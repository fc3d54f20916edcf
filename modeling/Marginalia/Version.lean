import Marginalia.Text.Blank
import Marginalia.Text.Line

/-! # The version of the program
The version is read from the project file, from the first line that starts with its key; if the file
does not tell, it is the installed version, and without one it is a version of zeros. -/

namespace Marginalia.Version

open Text

/-- The key of the version in the project file. -/
def key : List Char := "version".toList

/-- The version of this program. -/
def current : String := "0.3.0"

/-- The version where nothing tells it. -/
def unknown : String := "0.0.0"

/-- Why the project file does not give a version. -/
inductive VersionError where
  /-- The line with the key assigns nothing. -/
  | noAssignment
  deriving DecidableEq, Repr

/-- The text of the error. -/
def VersionError.message : VersionError → String
  | .noAssignment => "list index out of range"

/-- Whether a line starts with the key. -/
def hasKey (line : List Char) : Bool := key.isPrefixOf (trim line)

/-- The text between the first and the second equals sign of a line. -/
def assigned? (line : List Char) : Option (List Char) :=
  match line.dropWhile (· != '=') with
  | [] => none
  | _ :: rest => some (rest.takeWhile (· != '='))

/-- An assigned text without blanks and quotes at its ends. -/
def unquoted (text : List Char) : List Char :=
  trimBy (· == '\'') (trimBy (· == '"') (trim text))

/-- The version that a project file gives, if it has a line for it. -/
def ofProjectFile (file : List Char) : Except VersionError (Option String) :=
  match (rows file).find? hasKey with
  | none => .ok none
  | some line =>
    match assigned? line with
    | some text => .ok (some (String.ofList (unquoted text)))
    | none => .error .noAssignment

/-- The version, from a project file that may be missing and an installed version. -/
def find (projectFile : Option (List Char)) (installed : Option String) :
    Except VersionError String :=
  match projectFile with
  | none => .ok (installed.getD unknown)
  | some file => (ofProjectFile file).map fun version => version.getD (installed.getD unknown)

end Marginalia.Version
