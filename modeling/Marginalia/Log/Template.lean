import Marginalia.Json.Value
import Marginalia.Number.Fixed
import Marginalia.Text.Scan

/-! # Message templates
A log message is a template and arguments. A directive of the template starts with a percent sign and
names how an argument is written; `Template.fill?` puts the written arguments into the template, or
nothing comes of it when they do not fit: an argument is missing or left over, or is of a form that the
directive cannot write. -/

namespace Marginalia.Log.Template

open Text

/-- A number that a directive gives: a fixed one, or the next argument. -/
inductive Amount where
  /-- A number written in the template. -/
  | fixed (count : Nat)
  /-- The next argument. -/
  | fromArgument
  deriving DecidableEq, Repr

/-- The part of a template that stands for an argument. -/
structure Directive where
  /-- The name of the argument, if it is taken by name. -/
  key : Option (List Char)
  /-- The flags, as they are written. -/
  flags : List Char
  /-- The least width of the text. -/
  width : Option Amount
  /-- The number of digits, or the limit of the text. -/
  precision : Option Amount
  /-- The letter that names the form. -/
  form : Char
  deriving DecidableEq, Repr

/-- A piece of a template. -/
inductive Segment where
  /-- A character that stands for itself. -/
  | plain (c : Char)
  /-- A directive. -/
  | directive (directive : Directive)
  deriving DecidableEq, Repr

/-! ## Reading a template -/

/-- Read a name up to its closing parenthesis; parentheses inside it come in pairs. -/
def readKey : Nat → List Char → Option (List Char × List Char)
  | _, [] => none
  | depth, c :: rest =>
    let inside (depth : Nat) := (readKey depth rest).map fun (key, after) => (c :: key, after)
    if c = '(' then inside (depth + 1)
    else if c = ')' then
      match depth with
      | 0 => some ([], rest)
      | depth + 1 => inside depth
    else inside depth

/-- Read a number that a directive gives, if there is one. -/
def readAmount (text : List Char) : Option Amount × List Char :=
  match text with
  | '*' :: rest => (some .fromArgument, rest)
  | text =>
    let (digits, rest) := spanOf Char.isDigit text
    (if digits.isEmpty then none else some (.fixed (digitsValue digits)), rest)

/-- Whether a character is a flag. -/
def isFlag (c : Char) : Bool := c == '-' || c == '+' || c == ' ' || c == '#' || c == '0'

/-- Whether a character is a length mark, which says nothing. -/
def isLengthMark (c : Char) : Bool := c == 'h' || c == 'l' || c == 'L'

/-- Read the part of a directive behind its percent sign. -/
def readDirective (text : List Char) : Option (Directive × List Char) := do
  let (key, text) ← match text with
    | '(' :: rest => (readKey 0 rest).map fun (key, after) => (some key, after)
    | text => some (none, text)
  let (flags, text) := spanOf isFlag text
  let (width, text) := readAmount text
  let (precision, text) := match text with
    | '.' :: rest =>
      let (amount, after) := readAmount rest
      (some (amount.getD (.fixed 0)), after)
    | text => (none, text)
  let text := match text with
    | c :: rest => if isLengthMark c then rest else text
    | [] => []
  match text with
  | form :: rest => some (⟨key, flags, width, precision, form⟩, rest)
  | [] => none

/-- Read a template, two percent signs as one; nothing if a directive in it has no end. -/
def read? (text : List Char) : Option (List Segment) := go text.length text
where
  /-- Read a template of at most a length. -/
  go : Nat → List Char → Option (List Segment)
    | _, [] => some []
    | 0, _ :: _ => none
    | fuel + 1, '%' :: '%' :: rest => (go fuel rest).map (.plain '%' :: ·)
    | fuel + 1, '%' :: rest => do
      let (directive, after) ← readDirective rest
      return .directive directive :: (← go fuel after)
    | fuel + 1, c :: rest => (go fuel rest).map (.plain c :: ·)

/-! ## Writing an argument -/

/-- The text of an argument before it is padded: a sign, a mark of the base, and the rest. -/
structure Written where
  /-- The sign. -/
  sign : List Char
  /-- The mark of the base. -/
  base : List Char
  /-- The rest. -/
  body : List Char
  /-- Whether it is a number. -/
  isNumber : Bool
  deriving DecidableEq, Repr

/-- A text that is no number. -/
def Written.ofText (body : List Char) : Written := ⟨[], [], body, false⟩

/-- Pad a text to a width. -/
def Written.pad (written : Written) (flags : List Char) (width : Nat) : List Char :=
  let front := written.sign ++ written.base
  let missing := width - (front.length + written.body.length)
  if flags.contains '-' then front ++ written.body ++ List.replicate missing ' '
  else if written.isNumber && flags.contains '0' then
    front ++ List.replicate missing '0' ++ written.body
  else List.replicate missing ' ' ++ front ++ written.body

/-- The sign of a number. -/
def signOf (flags : List Char) (negative : Bool) : List Char :=
  if negative then ['-']
  else if flags.contains '+' then ['+']
  else if flags.contains ' ' then [' ']
  else []

/-- The whole number that an argument stands for; a fraction is cut off where that is allowed. -/
def wholeNumber? (cuts : Bool) : Json → Option Int
  | .int value => some value
  | .bool value => some (if value then 1 else 0)
  | .real (.finite negative significand exponent) =>
    if cuts then
      let (numerator, denominator) := Binary64.scaleRatio significand 1 exponent
      let magnitude : Int := (numerator / denominator : Nat)
      some (if negative then -magnitude else magnitude)
    else none
  | _ => none

/-- The number that an argument stands for. -/
def number? : Json → Option Binary64
  | .int value => some (.ofInt value)
  | .bool value => some (.ofInt (if value then 1 else 0))
  | .real value => some value
  | _ => none

/-- Write a whole number in a base. -/
def writeWhole (flags : List Char) (base : Nat) (mark : List Char) (precision : Nat) (value : Int) :
    Written :=
  let digits := Nat.toDigits base value.natAbs
  ⟨signOf flags (value < 0), if flags.contains '#' then mark else [],
    List.replicate (precision - digits.length) '0' ++ digits, true⟩

/-- A text in capitals. -/
def capitals (text : List Char) : List Char := text.map Char.toUpper

/-- A written number in capitals. -/
def Written.capitals (written : Written) : Written :=
  { written with base := Template.capitals written.base, body := Template.capitals written.body }

/-- Write a number with one of the ways to lay out a magnitude. -/
def writeNumber (flags : List Char) (layout : Nat → Int → List Char) : Binary64 → Written
  | .nan => ⟨signOf flags false, [], "nan".toList, true⟩
  | .infinite negative => ⟨signOf flags negative, [], "inf".toList, true⟩
  | .finite negative significand exponent =>
    ⟨signOf flags negative, [], layout significand exponent, true⟩

/-- A text cut to a precision, if there is one. -/
def cut (precision : Option Nat) (text : List Char) : Written :=
  .ofText (match precision with
    | some count => text.take count
    | none => text)

/-- A character in ASCII, as an escape if it has to be one. -/
def asciiChar (c : Char) : List Char :=
  if c.toNat < 0x80 then [c]
  else if c.toNat ≤ 0xFF then '\\' :: 'x' :: hexPadded 2 c.toNat
  else if c.toNat ≤ 0xFFFF then '\\' :: 'u' :: hexPadded 4 c.toNat
  else '\\' :: 'U' :: hexPadded 8 c.toNat

/-- Write the character that an argument stands for. -/
def writeChar? : Json → Option Written
  | .str text => match text.toList with
    | [c] => some (.ofText [c])
    | _ => none
  | value => do
    let code ← wholeNumber? false value
    if 0 ≤ code ∧ code < 0x110000 then some (.ofText [Char.ofNat code.toNat]) else none

/-- Write an argument in the form of a letter; nothing if the form does not fit. -/
def write? (form : Char) (flags : List Char) (precision : Option Nat) (value : Json) :
    Option Written :=
  let keepsPoint := flags.contains '#'
  let decimals := precision.getD 6
  let digits := precision.getD 0
  match form with
  | 's' => some (cut precision value.asText.toList)
  | 'r' => some (cut precision value.literal)
  | 'a' => some (cut precision (value.literal.flatMap asciiChar))
  | 'c' => writeChar? value
  | 'd' | 'i' | 'u' => (wholeNumber? true value).map fun whole =>
    { writeWhole flags 10 [] digits whole with base := [] }
  | 'o' => (wholeNumber? false value).map (writeWhole flags 8 ['0', 'o'] digits)
  | 'x' => (wholeNumber? false value).map (writeWhole flags 16 ['0', 'x'] digits)
  | 'X' => (wholeNumber? false value).map fun whole =>
    (writeWhole flags 16 ['0', 'x'] digits whole).capitals
  | 'f' => (number? value).map (writeNumber flags (Binary64.fixedText keepsPoint decimals))
  | 'F' => (number? value).map fun number =>
    (writeNumber flags (Binary64.fixedText keepsPoint decimals) number).capitals
  | 'e' => (number? value).map (writeNumber flags (Binary64.scientificText keepsPoint decimals))
  | 'E' => (number? value).map fun number =>
    (writeNumber flags (Binary64.scientificText keepsPoint decimals) number).capitals
  | 'g' => (number? value).map
    (writeNumber flags (Binary64.generalText keepsPoint (max 1 decimals)))
  | 'G' => (number? value).map fun number =>
    (writeNumber flags (Binary64.generalText keepsPoint (max 1 decimals)) number).capitals
  | _ => none

/-! ## Filling a template -/

/-- The arguments that are left. -/
structure Arguments where
  /-- The arguments in order. -/
  ordered : List Json
  /-- The arguments by name, if they are given so. -/
  named : Option (List (String × Json))
  deriving Repr

/-- The arguments of a message: a single object that is not empty gives them by name. -/
def Arguments.ofList : List Json → Arguments
  | [.object (member :: members)] =>
    ⟨[.object (member :: members)], some (member :: members)⟩
  | values => ⟨values, none⟩

/-- The next argument and those after it. -/
def Arguments.next? (arguments : Arguments) : Option (Json × Arguments) :=
  match arguments.ordered with
  | [] => none
  | value :: values => some (value, { arguments with ordered := values })

/-- The arguments after one was chosen by name: only that one is left. -/
def Arguments.choose? (arguments : Arguments) (key : List Char) : Option Arguments := do
  let value ← Json.member? (← arguments.named) (String.ofList key)
  return { arguments with ordered := [value] }

/-- The number that a directive gives. -/
def takeAmount? (arguments : Arguments) : Option Amount → Option (Option Int × Arguments)
  | none => some (none, arguments)
  | some (.fixed count) => some (some count, arguments)
  | some .fromArgument => do
    let (value, arguments) ← arguments.next?
    let count ← wholeNumber? false value
    return (some count, arguments)

/-- Write what a directive stands for, and the arguments that are left. -/
def fillDirective? (directive : Directive) (arguments : Arguments) :
    Option (List Char × Arguments) := do
  let arguments ← match directive.key with
    | some key => arguments.choose? key
    | none => some arguments
  let (width, arguments) ← takeAmount? arguments directive.width
  let (precision, arguments) ← takeAmount? arguments directive.precision
  let flags := if width.any (· < 0) then '-' :: directive.flags else directive.flags
  let (value, arguments) ← arguments.next?
  let written ← write? directive.form flags (precision.map Int.toNat) value
  return (written.pad flags (width.getD 0).natAbs, arguments)

/-- Fill the pieces of a template; all ordered arguments have to be used. -/
def fillSegments? : List Segment → Arguments → Option (List Char)
  | [], arguments => if arguments.named.isSome || arguments.ordered.isEmpty then some [] else none
  | .plain c :: segments, arguments => (fillSegments? segments arguments).map (c :: ·)
  | .directive directive :: segments, arguments => do
    let (text, arguments) ← fillDirective? directive arguments
    return text ++ (← fillSegments? segments arguments)

/-- The text of a message, if its arguments fit its template; without arguments the template is the
text. -/
def fill? (template : String) (values : List Json) : Option String :=
  if values.isEmpty then some template
  else do
    let segments ← read? template.toList
    return String.ofList (← fillSegments? segments (.ofList values))

end Marginalia.Log.Template
