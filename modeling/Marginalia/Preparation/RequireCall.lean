import Marginalia.Log.Record
import Marginalia.Module.Resolution
import Marginalia.Preparation.ImportDeclaration
import Marginalia.Text.Blank
import Marginalia.Text.Category
import Marginalia.Text.Scan

/-! # Require calls
The interpreter runs in the directory of the project, so a call that requires a module is pointed at
the path of the module. The quote of the call is kept; backslashes are doubled between quotes, as they
are read singly there. -/

namespace Marginalia.Preparation

open Text File

/-- A call that requires a module. -/
structure RequireCall where
  /-- The quote around the name. -/
  quote : Char
  /-- The name, as written between the quotes. -/
  written : List Char
  deriving DecidableEq, Repr

/-- A character that may stand in the name of a required module. -/
def isRequiredChar (c : Char) : Bool :=
  isWord c || c == '@' || c == '~' || c == '\\' || c == '/' || c == '.' || c == '-' || c == ':'

/-- Read a call that requires a module by a quoted name. -/
def readRequire : Recogniser RequireCall := fun before text =>
  if mayStartKeyword before then do
    let after ← expect "require".toList text
    let after ← expect ['('] (skipBlanks after)
    match skipBlanks after with
    | quote :: rest =>
      if isQuote quote then
        match spanOf isRequiredChar rest with
        | (first :: others, closing :: after) =>
          if closing = quote then do
            let after ← expect [')'] (skipBlanks after)
            return (⟨quote, first :: others⟩, after)
          else none
        | _ => none
      else none
    | [] => none
  else none

/-- A name with each pair of backslashes read as one. -/
def unescapeBackslashes : List Char → List Char
  | '\\' :: '\\' :: rest => '\\' :: unescapeBackslashes rest
  | c :: rest => c :: unescapeBackslashes rest
  | [] => []

/-- A text with each backslash written twice. -/
def escapeBackslashes (text : List Char) : List Char :=
  text.flatMap fun c => if c = '\\' then ['\\', '\\'] else [c]

/-- The name of the module that a call requires. -/
def RequireCall.name (call : RequireCall) : List Char := unescapeBackslashes call.written

/-- The call for the path of its module. -/
def RequireCall.render (call : RequireCall) (path : List Char) : List Char :=
  "require(".toList ++ call.quote :: (escapeBackslashes path ++ [call.quote, ')'])

/-- The report of a resolved module. -/
def resolvedRecord (name path : List Char) : Log.Record :=
  ⟨.modulePaths, .debug, "Resolved require('" ++ String.ofList name ++ "') -> " ++ String.ofList path⟩

/-- Point the calls among some pieces of a text at the paths of their modules. -/
def resolvePieces (tree : Tree) (context : Module.Context) :
    List (Piece RequireCall) → Except LookupError (List Char × List Log.Record)
  | [] => .ok ([], [])
  | .char c :: pieces => do
    let (text, logs) ← resolvePieces tree context pieces
    return (c :: text, logs)
  | .construct written call :: pieces => do
    let found ← Module.resolve tree context call.name
    let (text, logs) ← resolvePieces tree context pieces
    match found with
    | none => return (written ++ text, logs)
    | some path => return (call.render path ++ text, resolvedRecord call.name path :: logs)

/-- Point every call of a text that requires a module at the path of the module. -/
def resolveRequires (tree : Tree) (context : Module.Context) (text : List Char) :
    Except LookupError (List Char × List Log.Record) :=
  resolvePieces tree context (scan readRequire none text)

end Marginalia.Preparation
