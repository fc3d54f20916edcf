import Marginalia.Text.Line

/-! # Paths
A path is a root and names below it. Empty names and names that mean "here" are left out when a path
is read; names that mean "above" stay, because what is above depends on the files. -/

namespace Marginalia.File

open Text

/-- Cut a text at every slash. -/
def splitAtSlash : List Char → List (List Char)
  | [] => [[]]
  | c :: rest => if c = '/' then [] :: splitAtSlash rest else consHead c (splitAtSlash rest)

/-- The name that means "here". -/
def hereName : List Char := ['.']

/-- The name that means "above". -/
def aboveName : List Char := ['.', '.']

/-- A path. -/
structure Path where
  /-- Nothing for a relative path, otherwise one slash, or two where exactly two were written. -/
  root : List Char
  /-- The names from the root on. -/
  names : List (List Char)
  deriving DecidableEq, Repr

/-- The root that a text starts with. -/
def rootOf (text : List Char) : List Char :=
  match text.takeWhile (· == '/') with
  | [] => []
  | ['/', '/'] => ['/', '/']
  | _ => ['/']

namespace Path

/-- Read a path. -/
def ofText (text : List Char) : Path where
  root := rootOf text
  names := (splitAtSlash text).filter fun name => name ≠ [] ∧ name ≠ hereName

/-- Names joined by slashes, behind a root; a path without root and names is "here". -/
def joinText (root : List Char) (names : List (List Char)) : List Char :=
  if root.isEmpty && names.isEmpty then hereName else root ++ ['/'].intercalate names

/-- The text of a path. -/
def text (path : Path) : List Char := joinText path.root path.names

/-- The text of a path as a string. -/
def toString (path : Path) : String := String.ofList path.text

/-- Whether a path starts at a root. -/
def isAbsolute (path : Path) : Bool := !path.root.isEmpty

/-- The path of a second path seen from the first; a path with a root stands for itself. -/
def join (path other : Path) : Path :=
  if other.isAbsolute then other else { path with names := path.names ++ other.names }

/-- The path without its last name. -/
def parent (path : Path) : Path := { path with names := path.names.dropLast }

/-- Names with each "above" taken together with the name before it; above a root is the root. -/
def collapseAbove (rooted : Bool) : List (List Char) → List (List Char) → List (List Char)
  | done, [] => done.reverse
  | done, name :: names =>
    if name = aboveName then
      match done with
      | [] => collapseAbove rooted (if rooted then [] else [name]) names
      | last :: others =>
        if last = aboveName then collapseAbove rooted (name :: last :: others) names
        else collapseAbove rooted others names
    else collapseAbove rooted (name :: done) names

/-- The path without any name that means "above" behind another name. -/
def normalize (path : Path) : Path :=
  { path with names := collapseAbove path.isAbsolute [] path.names }

end Path

end Marginalia.File
