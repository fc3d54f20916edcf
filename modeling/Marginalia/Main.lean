import Marginalia.CommandLine

/-! # The program
The outer layer of the command line: it gathers what surrounds the program, lets
`CommandLine.run` decide everything, and prints what comes of it. The messages of the host are taken
from the standard input, one a line, once a document is submitted; a line that is no message is
dropped. -/

namespace Marginalia.CommandLine

/-- The place of a path of the file system. -/
def placeOf (path : String) : File.Place := (File.Path.ofText path.toList).names

/-- What stands below a directory; nothing if it cannot be walked. -/
def entriesBelow (directory : String) : IO (List (File.Place × File.Kind)) := do
  try
    let top ← IO.FS.realPath directory
    let paths ← top.walkDir
    paths.toList.mapM fun path => do
      let isDirectory ← path.isDir
      return (placeOf path.toString, if isDirectory then .directory else .file)
  catch _ => return []

/-- The bytes of a file, if it can be read. -/
def bytesOf (path : String) : IO (List (File.Place × List UInt8)) := do
  try
    let place ← IO.FS.realPath path
    let bytes ← IO.FS.readBinFile path
    return [(placeOf place.toString, bytes.toList)]
  catch _ => return []

/-- What surrounds the program when it is called with some words. The host is silent. -/
def gather (words : List String) : IO Surroundings := do
  let current ← IO.FS.realPath "."
  let interpreter ← IO.getEnv Settings.interpreterVariable
  let (path, directories) :=
    match read words with
    | .ok (path, arguments) =>
      (String.ofList path,
        [(File.Path.ofText path).parent.toString] ++
          (arguments.basePath.map String.ofList).toList)
    | .error _ => ("", [])
  let contents ← bytesOf path
  let below ← directories.mapM entriesBelow
  let entries := contents.map fun (place, _) => (place, File.Kind.file)
  return {
    tree := ⟨entries ++ below.flatten, placeOf current.toString⟩
    contents := contents
    environment := (interpreter.map fun value => (Settings.interpreterVariable, value)).toList
    version := Version.current
    host := ⟨none, none, [], true, none⟩
    outputFault := none }

/-- Read lines up to the end of a stream. -/
partial def readLines (stream : IO.FS.Stream) : IO (List String) := do
  let line ← stream.getLine
  if line.isEmpty then return []
  else return line :: (← readLines stream)

/-- The messages among some lines. -/
def messagesOf (lines : List String) : List Message :=
  lines.filterMap fun line => (Message.decode line.toList).toOption

/-- Two digits of a number. -/
def twoDigits (number : Nat) : String := (if number < 10 then "0" else "") ++ toString number

/-- The time of day of a clock that counts milliseconds. -/
def timeOf (milliseconds : Nat) : String :=
  let seconds := milliseconds / 1000
  twoDigits (seconds / 3600 % 24) ++ ":" ++ twoDigits (seconds / 60 % 60) ++ ":" ++
    twoDigits (seconds % 60)

/-- The status and what goes to the error stream at the end of a call. -/
def Ending.report : Ending → Nat × String
  | .informed => (0, "")
  | .refused error => (2, usageText ++ error.line)
  | .finished status => (status.code, "")
  | .brokenOff fault => (1, fault.text ++ "\n")

end Marginalia.CommandLine

open Marginalia CommandLine in
/-- Call the program with the words of a command line. -/
def main (words : List String) : IO UInt32 := do
  let surroundings ← gather words
  let silent := run surroundings words
  let outcome ←
    if silent.session.isNone then pure silent
    else do
      let messages := messagesOf (← readLines (← IO.getStdin))
      pure (run { surroundings with host := ⟨none, none, messages, true, none⟩ } words)
  let (status, trouble) := outcome.ending.report
  IO.print outcome.output
  IO.eprint (outcome.shownLog (timeOf (← IO.monoMsNow)) false ++ trouble)
  return status.toUInt32
