import Marginalia.File.Path
import Marginalia.Number.Reading
import Marginalia.Text.Quoted

/-! # Arguments of the command line
The words of the command line are told apart first (`Token.ofWord`), then taken from left to right: the
first word that is no switch is the path of the document, and a switch may be shortened as long as it
stays clear. Asking for help or for the version ends the reading at once, as does an error. -/

namespace Marginalia.CommandLine

open Text File

/-- The name of the program. -/
def programName : String := "inline-repl"

/-- The switches. -/
inductive Switch where
  /-- Show the help. -/
  | help
  /-- The directory of the project. -/
  | basePath
  /-- The interpreter. -/
  | interpreter
  /-- The time to wait for late results. -/
  | drainTimeout
  /-- Print the annotations for other programs. -/
  | json
  /-- Show more of the log. -/
  | verbose
  /-- Show the version. -/
  | version
  deriving DecidableEq, Repr

namespace Switch

/-- All spellings, in the order in which they are declared. -/
def spellings : List (String × Switch) :=
  [("-h", .help), ("--help", .help), ("--base-path", .basePath), ("--node", .interpreter),
    ("--drain-timeout", .drainTimeout), ("--json", .json), ("-v", .verbose),
    ("--verbose", .verbose), ("--version", .version)]

/-- The switch of a spelling. -/
def ofSpelling? (spelling : List Char) : Option Switch :=
  (spellings.find? fun entry => entry.1.toList == spelling).map (·.2)

/-- Whether the switch is followed by a value. -/
def takesValue : Switch → Bool
  | .basePath | .interpreter | .drainTimeout => true
  | _ => false

/-- How an error names the switch. -/
def title (switch : Switch) : String :=
  "/".intercalate ((spellings.filter (·.2 == switch)).map (·.1))

end Switch

/-- What is wrong with a command line. -/
inductive UsageError where
  /-- A shortened switch may be one of several. -/
  | ambiguous (word : List Char) (candidates : List String)
  /-- A switch lacks its value. -/
  | missingValue (switch : Switch)
  /-- A switch that takes no value got one. -/
  | ignoredValue (switch : Switch) (value : List Char)
  /-- The value of a switch is no number. -/
  | invalidNumber (switch : Switch) (value : List Char)
  /-- There is no path. -/
  | missingPath
  /-- There are words that nothing takes. -/
  | unrecognized (words : List (List Char))
  deriving DecidableEq, Repr

/-- The text of the error. -/
def UsageError.message : UsageError → String
  | .ambiguous word candidates =>
    "ambiguous option: " ++ String.ofList word ++ " could match " ++ ", ".intercalate candidates
  | .missingValue switch => "argument " ++ switch.title ++ ": expected one argument"
  | .ignoredValue switch value =>
    "argument " ++ switch.title ++ ": ignored explicit argument " ++ String.ofList (quoted value)
  | .invalidNumber switch value =>
    "argument " ++ switch.title ++ ": invalid float value: " ++ String.ofList (quoted value)
  | .missingPath => "the following arguments are required: path"
  | .unrecognized words =>
    "unrecognized arguments: " ++ " ".intercalate (words.map String.ofList)

/-! ## Telling words apart -/

/-- A value written in one word with its switch. -/
structure Attached where
  /-- Whether an equals sign stands between them. -/
  bySign : Bool
  /-- The value. -/
  value : List Char
  deriving DecidableEq, Repr

/-- A word of the command line. -/
inductive Token where
  /-- A word that is no switch. -/
  | plain (word : List Char)
  /-- The mark behind which no word is a switch. -/
  | separator
  /-- A word that looks like a switch but is none. -/
  | unknown (word : List Char)
  /-- A switch, whether it is a long one, and the value written with it. -/
  | option (switch : Switch) (isLong : Bool) (attached : Option Attached)
  deriving DecidableEq, Repr

/-- Whether a spelling is a long one. -/
def isLongSpelling : List Char → Bool
  | '-' :: '-' :: _ => true
  | _ => false

/-- Cut a word at its first equals sign. -/
def splitAtSign (word : List Char) : List Char × Option (List Char) :=
  match word.dropWhile (· != '=') with
  | [] => (word, none)
  | _ :: value => (word.takeWhile (· != '='), some value)

/-- The switches that a word may be short for: a long one by a beginning of it, a short one by its
letter, with the rest of the word as its value. -/
def candidates (word : List Char) : List (String × Switch × Option Attached) :=
  if isLongSpelling word then
    let (beginning, value) := splitAtSign word
    (Switch.spellings.filter fun entry => beginning.isPrefixOf entry.1.toList).map fun entry =>
      (entry.1, entry.2, value.map (⟨true, ·⟩))
  else
    Switch.spellings.filterMap fun entry =>
      if entry.1.toList = word.take 2 then some (entry.1, entry.2, some ⟨false, word.drop 2⟩)
      else if word.isPrefixOf entry.1.toList then some (entry.1, entry.2, none)
      else none

/-- Whether a word behind a minus sign is a number, with or without a point. -/
def isNegativeNumber : List Char → Bool
  | '-' :: rest =>
    let (whole, fraction) := spanOf isDecimalDigit rest
    match fraction with
    | [] => !whole.isEmpty
    | '.' :: decimals => !decimals.isEmpty && decimals.all isDecimalDigit
    | _ => false
  | _ => false

/-- What a word behind a minus sign is, if it is no spelling of a switch. -/
def Token.ofMarked (word : List Char) : Except UsageError Token :=
  match splitAtSign word with
  | (spelling, some value) =>
    match Switch.ofSpelling? spelling with
    | some switch => .ok (.option switch (isLongSpelling spelling) (some ⟨true, value⟩))
    | none => shortened word
  | (_, none) => shortened word
where
  /-- What a word is that may be short for a switch. -/
  shortened (word : List Char) : Except UsageError Token :=
    match candidates word with
    | [] =>
      .ok (if isNegativeNumber word || word.contains ' ' then .plain word else .unknown word)
    | [(spelling, switch, attached)] =>
      .ok (.option switch (isLongSpelling spelling.toList) attached)
    | several => .error (.ambiguous word (several.map (·.1)))

/-- What a word is. -/
def Token.ofWord (word : List Char) : Except UsageError Token :=
  match word with
  | '-' :: _ :: _ =>
    match Switch.ofSpelling? word with
    | some switch => .ok (.option switch (isLongSpelling word) none)
    | none => Token.ofMarked word
  | _ => .ok (.plain word)

/-- What the words are, up to the separator and behind it. -/
def tokens : List (List Char) → Except UsageError (List Token)
  | [] => .ok []
  | word :: words =>
    if word = ['-', '-'] then .ok (.separator :: words.map .plain)
    else do
      let token ← Token.ofWord word
      return token :: (← tokens words)

/-! ## Taking words -/

/-- What a command line asks for. -/
structure Arguments where
  /-- The path of the document. -/
  path : Option (List Char)
  /-- The directory of the project. -/
  basePath : Option (List Char)
  /-- The interpreter. -/
  interpreter : Option String
  /-- The time to wait for late results. -/
  drainTimeout : Option Binary64
  /-- Whether the annotations are printed for other programs. -/
  json : Bool
  /-- How much more of the log is shown. -/
  verbosity : Nat
  deriving DecidableEq, Repr

/-- Nothing is asked for. -/
def Arguments.none : Arguments := ⟨.none, .none, .none, .none, false, 0⟩

/-- What ends the reading of a command line early. -/
inductive Halt where
  /-- The help is asked for. -/
  | help
  /-- The version is asked for. -/
  | version
  /-- The command line is wrong. -/
  | error (error : UsageError)
  deriving DecidableEq, Repr

/-- Arguments that are read so far, and the words that nothing takes. -/
structure Reading where
  /-- The arguments. -/
  arguments : Arguments
  /-- The words left over. -/
  extras : List (List Char)
  deriving DecidableEq, Repr

/-- Take a switch without a value. -/
def Reading.flag (reading : Reading) : Switch → Except Halt Reading
  | .help => .error .help
  | .version => .error .version
  | .json => .ok { reading with arguments := { reading.arguments with json := true } }
  | .verbose =>
    let arguments := { reading.arguments with verbosity := reading.arguments.verbosity + 1 }
    .ok { reading with arguments }
  | switch => .error (.error (.missingValue switch))

/-- Take a switch with its value. -/
def Reading.value (reading : Reading) (switch : Switch) (value : List Char) : Except Halt Reading :=
  match switch with
  | .basePath =>
    .ok { reading with arguments := { reading.arguments with basePath := some value } }
  | .interpreter =>
    let arguments := { reading.arguments with interpreter := some (String.ofList value) }
    .ok { reading with arguments }
  | .drainTimeout =>
    match Binary64.read? value with
    | some number =>
      .ok { reading with arguments := { reading.arguments with drainTimeout := some number } }
    | none => .error (.error (.invalidNumber switch value))
  | _ => .error (.error (.ignoredValue switch value))

/-- Take switches without a value, one after another. -/
def Reading.flags (reading : Reading) : List Switch → Except Halt Reading
  | [] => .ok reading
  | switch :: switches => do (← reading.flag switch).flags switches

/-- The switches that stand for one letter each in a word, behind a first one, and the rest of the word
that is none. -/
def cluster (switch : Switch) : List Char → Except UsageError (List Switch × Option (List Char))
  | [] => .ok ([switch], none)
  | c :: rest =>
    if c = '-' then .error (.ignoredValue switch (c :: rest))
    else
      match Switch.ofSpelling? ['-', c] with
      | none => .ok ([switch], some ('-' :: c :: rest))
      | some next =>
        match rest with
        | '=' :: value => .error (.ignoredValue next value)
        | rest => do
          let (switches, extra) ← cluster next rest
          return (switch :: switches, extra)

/-- Take a switch that takes no value but has one written with it. -/
def Reading.attachedFlag (reading : Reading) (switch : Switch) (isLong : Bool)
    (attached : Attached) : Except Halt Reading :=
  if isLong || attached.bySign || attached.value.isEmpty then
    .error (.error (.ignoredValue switch attached.value))
  else
    match cluster switch attached.value with
    | .error error => .error (.error error)
    | .ok (switches, extra) =>
      { reading with extras := reading.extras ++ extra.toList }.flags switches

/-- Take a word that is no switch: the path, if there is none yet. -/
def Reading.plain (reading : Reading) (word : List Char) : Reading :=
  match reading.arguments.path with
  | none => { reading with arguments := { reading.arguments with path := some word } }
  | some _ => { reading with extras := reading.extras ++ [word] }

/-- The separator as a word. -/
def separatorWord : List Char := ['-', '-']

/-- Take the separator. It says nothing beside the path of the document; elsewhere nothing takes it. -/
def Reading.separator (reading : Reading) (besidePath : Bool) : Reading :=
  if besidePath then reading else { reading with extras := reading.extras ++ [separatorWord] }

/-- Whether a token is a word that can be the path. -/
def Token.isPlain : Token → Bool
  | .plain _ => true
  | _ => false

/-- Take tokens from left to right; `justPath` says that the path was the token before. -/
def Reading.take (reading : Reading) (justPath : Bool) : List Token → Except Halt Reading
  | [] => .ok reading
  | .plain word :: rest => (reading.plain word).take reading.arguments.path.isNone rest
  | .separator :: rest =>
    let before := reading.arguments.path.isNone && rest.any Token.isPlain
    (reading.separator (justPath || before)).take false rest
  | .unknown word :: rest => { reading with extras := reading.extras ++ [word] }.take false rest
  | .option switch isLong (some attached) :: rest => do
    let reading ←
      if switch.takesValue then reading.value switch attached.value
      else reading.attachedFlag switch isLong attached
    reading.take false rest
  | .option switch _ none :: rest =>
    if switch.takesValue then
      match rest with
      | .plain word :: rest => do (← reading.value switch word).take false rest
      | _ => .error (.error (.missingValue switch))
    else do (← reading.flag switch).take false rest

/-- The path of the document and everything else that a command line asks for. -/
def read (words : List String) : Except Halt (List Char × Arguments) :=
  match tokens (words.map String.toList) with
  | .error error => .error (.error error)
  | .ok tokens => do
    let reading ← (Reading.mk .none []).take false tokens
    match reading.arguments.path, reading.extras with
    | none, _ => .error (.error .missingPath)
    | some path, [] => .ok (path, reading.arguments)
    | some _, extras => .error (.error (.unrecognized extras))

/-! ## The help -/

/-- The lines that show how the program is used. -/
def usageText : String :=
  "usage: inline-repl [-h] [--base-path BASE_PATH] [--node NODE]\n" ++
  "                   [--drain-timeout DRAIN_TIMEOUT] [--json] [-v] [--version]\n" ++
  "                   path\n"

/-- The help. -/
def helpText : String :=
  usageText ++
  "\nEvaluate a JavaScript file line by line and show each line's result.\n\n" ++
  "positional arguments:\n" ++
  "  path                  JavaScript file to evaluate\n\n" ++
  "options:\n" ++
  "  -h, --help            show this help message and exit\n" ++
  "  --base-path BASE_PATH\n" ++
  "                        Project root for module resolution and working\n" ++
  "                        directory (default: file's folder)\n" ++
  "  --node NODE           Node.js executable (default: $INLINE_REPL_NODE or\n" ++
  "                        'node')\n" ++
  "  --drain-timeout DRAIN_TIMEOUT\n" ++
  "                        Seconds to wait for async results\n" ++
  "  --json                Print the annotation table as JSON\n" ++
  "  -v, --verbose         More logging (-v info, -vv debug)\n" ++
  "  --version             show program's version number and exit\n"

/-- The error of a command line as it is shown, behind the usage. -/
def UsageError.line (error : UsageError) : String :=
  programName ++ ": error: " ++ error.message ++ "\n"

end Marginalia.CommandLine
