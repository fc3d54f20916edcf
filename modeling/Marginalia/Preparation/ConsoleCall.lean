import Marginalia.Marker
import Marginalia.Text.Blank
import Marginalia.Text.Category
import Marginalia.Text.Line
import Marginalia.Text.Scan

/-! # Console calls
A call of the console may run long after its line was evaluated, so it carries its line with it: each
call of a configured function is redirected to the tagging console with its line as first argument.
Lines are tagged one by one; a call written over several lines is left alone. -/

namespace Marginalia.Preparation

open Text

/-- Whether the word `console` may start after the given character. -/
def mayStartConsole (before : Option Char) : Bool := !(before.any isNamePart)

/-- Read one of several functions and the parenthesis that opens its arguments; the first function
in order that fits is taken. -/
def readFunction (functions : List (List Char)) (text : List Char) :
    Option (List Char × List Char) :=
  functions.findSome? fun function => do
    let after ← expect function text
    let after ← expect ['('] (skipBlanks after)
    return (function, after)

/-- The texts left by skipping leading white space, from all of it down to none. -/
def blankSkips : List Char → List (List Char)
  | [] => [[]]
  | c :: rest => if isBlank c then blankSkips rest ++ [c :: rest] else [c :: rest]

/-- Read a console call up to its arguments: the function called. -/
def readConsoleCall (functions : List (List Char)) : Recogniser (List Char) := fun before text =>
  if mayStartConsole before then do
    let after ← expect "console".toList text
    let after ← expect ['.'] (skipBlanks after)
    (blankSkips after).findSome? (readFunction functions)
  else none

/-- The functions to look for: without any, a call without a name. -/
def calledFunctions (functions : List (List Char)) : List (List Char) :=
  if functions.isEmpty then [[]] else functions

/-- Tag the console calls of one line. -/
def tagLine (functions : List (List Char)) (number : Nat) (line : List Char) : List Char :=
  replace (readConsoleCall (calledFunctions functions))
    (fun _ function => Marker.consoleCall function number) line

/-- Tag lines that are numbered on from a first number. -/
def tagLinesFrom (functions : List (List Char)) : Nat → List (List Char) → List (List Char)
  | _, [] => []
  | number, line :: lines => tagLine functions number line :: tagLinesFrom functions (number + 1) lines

@[simp] theorem length_tagLinesFrom (functions : List (List Char)) (number : Nat)
    (lines : List (List Char)) : (tagLinesFrom functions number lines).length = lines.length := by
  induction lines generalizing number with
  | nil => rfl
  | cons line lines ih => simp [tagLinesFrom, ih]

/-- Tag every console call of a text with its physical line. -/
def tagCalls (functions : List (List Char)) (text : List Char) : List Char :=
  joinLines (tagLinesFrom functions 1 (splitLines text).1) (splitLines text).2

end Marginalia.Preparation
