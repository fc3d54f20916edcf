import Marginalia.Preparation.ChainBreak
import Marginalia.Preparation.ConsoleCall
import Marginalia.Preparation.ImportDeclaration
import Marginalia.Preparation.RequireCall

/-! # Preparing a document
A document is prepared for the interpreter in four stages: imports become `require` calls, `require`
calls get the paths of their modules, console calls are tagged with their lines, and call chains are
joined. Tagging comes before joining because it counts physical lines. -/

namespace Marginalia.Preparation

open Text File

/-- The stages of preparation. -/
inductive Stage where
  /-- Imports become `require` calls. -/
  | imports
  /-- `require` calls get the paths of their modules. -/
  | modulePaths
  /-- Console calls are tagged. -/
  | console
  /-- Call chains are joined. -/
  | chains
  deriving DecidableEq, Repr

/-- The name of a stage. -/
def Stage.name : Stage → String
  | .imports => "imports"
  | .modulePaths => "module_paths"
  | .console => "console"
  | .chains => "chains"

/-- The stages in the order in which they apply. -/
def Stage.order : List Stage := [.imports, .modulePaths, .console, .chains]

/-- What preparation depends on besides the text. -/
structure Setting where
  /-- The files that exist. -/
  tree : Tree
  /-- Where the document is evaluated. -/
  context : Module.Context
  /-- The functions of the console whose calls are tagged. -/
  functions : List (List Char)
  deriving DecidableEq, Repr

/-- Apply one stage. -/
def Stage.apply (setting : Setting) (text : List Char) :
    Stage → Except LookupError (List Char × List Log.Record)
  | .imports => .ok (importsAsRequires text, [])
  | .modulePaths => resolveRequires setting.tree setting.context text
  | .console => .ok (tagCalls setting.functions text, [])
  | .chains => .ok (joinChains text, [])

/-- The report of a stage that changed the text. -/
def Stage.changedRecord (stage : Stage) : Log.Record :=
  ⟨.preparation, .debug, s!"Rewrite stage '{stage.name}' changed the source"⟩

/-- Apply some stages in order: the text after each of them, and the reports. -/
def applyStages (setting : Setting) :
    List Stage → List Char → Except LookupError (List (Stage × List Char) × List Log.Record)
  | [], _ => .ok ([], [])
  | stage :: stages, text => do
    let (prepared, logs) ← stage.apply setting text
    let (others, otherLogs) ← applyStages setting stages prepared
    let changed := if prepared = text then [] else [stage.changedRecord]
    return ((stage, prepared) :: others, logs ++ changed ++ otherLogs)

/-- Prepare a document. -/
def document (setting : Setting) (text : List Char) :
    Except LookupError (List Char × List Log.Record) := do
  let (steps, logs) ← applyStages setting Stage.order text
  return ((steps.getLast?.map (·.2)).getD text, logs)

/-- The number of lines of a document. -/
def lineCount (text : List Char) : Nat := lineFeeds text + 1

end Marginalia.Preparation
