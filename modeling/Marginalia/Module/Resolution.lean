import Marginalia.File.Tree
import Marginalia.Module.Name

/-! # Resolution of modules
A module that is neither built in nor absolute is looked for among the installed modules of the
project, beside the document, and in the project; the last two only for names with a separator. The
first place where something stands, with or without one of the usual extensions, is the module. -/

namespace Marginalia.Module

open File

/-- The extensions tried behind a path. -/
def extensions : List (List Char) :=
  [".js".toList, ".json".toList, ".node".toList, ".cjs".toList, ".mjs".toList]

/-- The directory of the installed modules, below the project. -/
def installedDirectory : Path := .ofText "node_modules".toList

/-- Where a document is evaluated: its project and its own path. -/
structure Context where
  /-- The directory of the project. -/
  base : Option Path
  /-- The path of the document. -/
  document : Option Path
  deriving DecidableEq, Repr

/-- The paths at which a module is looked for, in order. -/
def candidates (context : Context) (name : List Char) : List Path :=
  let path := Path.ofText name
  let installed := context.base.toList.map fun base => (base.join installedDirectory).join path
  if hasSeparator name then
    installed ++ context.document.toList.map (fun document => document.parent.join path) ++
      context.base.toList.map fun base => base.join path
  else installed

/-- Whether the first that stands among some paths is one of them. -/
def anyExists (tree : Tree) : List Path → Except LookupError Bool
  | [] => .ok false
  | path :: paths => do
    if ← tree.pathExists path then return true else anyExists tree paths

/-- Whether something stands at a path, with or without an extension. -/
def isPresent (tree : Tree) (path : Path) : Except LookupError Bool :=
  anyExists tree (path :: extensions.map fun extension => .ofText (path.text ++ extension))

/-- The first of some paths at which something stands, with or without an extension. -/
def firstPresent (tree : Tree) : List Path → Except LookupError (Option Path)
  | [] => .ok none
  | path :: paths => do
    if ← isPresent tree path then return some path else firstPresent tree paths

/-- The path of a module, or nothing when the name is to stay as it is. -/
def resolve (tree : Tree) (context : Context) (name : List Char) :
    Except LookupError (Option (List Char)) :=
  if isBuiltin name || isAbsolute name then .ok none
  else do
    let found ← firstPresent tree (candidates context name)
    return found.map fun path => path.normalize.text

end Marginalia.Module
