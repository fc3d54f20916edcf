import Marginalia.File.Path
import Marginalia.Number.Total
import Marginalia.Text.Quoted

/-! # File trees
The files that exist, as far as a session looks at them: directories and files by their names from
the root, and the directory that relative paths start from. Looking up a path walks from name to
name, as the system does: a name that means "above" needs a directory to stand in, and a name or a
path that is too long is an error. -/

namespace Marginalia.File

open Text

/-- What stands at a place of the tree. -/
inductive Kind where
  /-- A directory. -/
  | directory
  /-- A file. -/
  | file
  deriving DecidableEq, Repr

/-- A place of the tree: the names from the root on. -/
abbrev Place := List (List Char)

/-- The files that exist. -/
structure Tree where
  /-- The places of the directories and files that were made. -/
  entries : List (Place × Kind)
  /-- The directory that relative paths start from. -/
  workingDirectory : Place
  deriving DecidableEq, Repr

/-- Why a path cannot be looked up. -/
inductive LookupError where
  /-- The path or a name of it is too long. -/
  | nameTooLong (path : List Char)
  deriving DecidableEq, Repr

/-- The text of the error. -/
def LookupError.message : LookupError → String
  | .nameTooLong path => "[Errno 36] File name too long: " ++ String.ofList (quoted path)

/-- The number of bytes of a text. -/
def byteLength (text : List Char) : Nat := total (text.map fun c => c.utf8Size)

/-- The greatest number of bytes of a name. -/
def longestName : Nat := 255

/-- The least number of bytes of a path that is too long. -/
def tooLongPath : Nat := 4096

namespace Tree

/-- A tree with nothing but the directories down to the working directory. -/
def bare (workingDirectory : Place) : Tree := ⟨[], workingDirectory⟩

/-- What stands at a place: what was made there, or a directory above something that was made. -/
def kindAt (tree : Tree) (place : Place) : Option Kind :=
  match tree.entries.find? (·.1 == place) with
  | some (_, kind) => some kind
  | none =>
    if place.isPrefixOf tree.workingDirectory || tree.entries.any fun entry => place.isPrefixOf entry.1
    then some .directory
    else none

/-- Walk along names from a place; `none` says that nothing is there. -/
def walk (tree : Tree) (path : List Char) (place : Place) :
    List (List Char) → Except LookupError (Option (Place × Kind))
  | [] => .ok ((tree.kindAt place).map fun kind => (place, kind))
  | name :: names =>
    match tree.kindAt place with
    | some .directory =>
      if name = aboveName then tree.walk path place.dropLast names
      else if byteLength name > longestName then .error (.nameTooLong path)
      else tree.walk path (place ++ [name]) names
    | _ => .ok none

/-- Look up a path: the place it leads to and what stands there. -/
def lookup (tree : Tree) (path : Path) : Except LookupError (Option (Place × Kind)) :=
  let text := path.text
  if text.contains (Char.ofNat 0) then .ok none
  else if byteLength text ≥ tooLongPath then .error (.nameTooLong text)
  else tree.walk text (if path.isAbsolute then [] else tree.workingDirectory) path.names

/-- Whether something stands at a path. -/
def pathExists (tree : Tree) (path : Path) : Except LookupError Bool :=
  (tree.lookup path).map Option.isSome

/-- Whether a file stands at a path. -/
def isFile (tree : Tree) (path : Path) : Except LookupError Bool :=
  (tree.lookup path).map fun found => found.any (·.2 == .file)

/-- The place of the file that a path leads to, if a file stands there. -/
def filePlace? (tree : Tree) (path : Path) : Except LookupError (Option Place) :=
  (tree.lookup path).map fun found =>
    found.bind fun (place, kind) => if kind = .file then some place else none

/-- The absolute path that a path leads to, whether or not something stands there. -/
def absolute (tree : Tree) (path : Path) : Path :=
  let start : Path := ⟨['/'], tree.workingDirectory⟩
  { (start.join path).normalize with root := ['/'] }

end Tree

end Marginalia.File
