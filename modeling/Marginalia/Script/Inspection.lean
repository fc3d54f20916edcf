import Marginalia.Script.Promises
import Marginalia.Text.Quoted
import Marginalia.Text.Scan
import Marginalia.Text.Units

/-! # Inspection
The text that shows a script value to its author. Texts stand in quotes, the parts of an object on one
line if they fit and are not nested too deeply, and on lines of their own otherwise; objects below a
depth are shown by their class alone, and an object inside itself by a reference. -/

namespace Marginalia.Script

open Text

/-- How values are inspected. -/
structure Inspection where
  /-- The level below which objects are not shown; all are shown if there is none. -/
  depth : Option Int
  /-- Whether the length of a list is shown as well. -/
  lengths : Bool
  deriving DecidableEq, Repr

namespace Inspection

/-- The inspection down to a depth. -/
def upTo (depth : Option Int) : Inspection := ⟨depth, false⟩

/-- The inspection where nothing else is said. -/
def standard : Inspection := .upTo (some 2)

/-- Whether objects of a level are not shown. -/
def hides (inspection : Inspection) (level : Nat) : Bool :=
  inspection.depth.any fun depth => decide (depth < (level : Int))

/-! ## Texts -/

/-- The width of a line. -/
def lineWidth : Nat := 80

/-- The least size of a text that is cut into lines. -/
def cutSize : Nat := 16

/-- The greatest size of a text that is shown in full. -/
def textLimit : Nat := 10000

/-- Whether a dollar sign and a brace stand side by side in a text. -/
def holdsPlaceholder (text : List Char) : Bool := (text.zip (text.drop 1)).contains ('$', '{')

/-- The quote of a text: the first of three that the text does not hold, or else the single one. -/
def quoteFor (text : List Char) : Char :=
  if !text.contains '\'' then '\''
  else if !text.contains '"' then '"'
  else if !text.contains '\x60' && !holdsPlaceholder text then '\x60'
  else '\''

/-- One character of a quoted text. -/
def escapeChar (quote c : Char) : List Char :=
  if (c = '\'' ∧ quote = '\'') ∨ c = '\\' then ['\\', c]
  else if c = '\n' then ['\\', 'n']
  else if c = '\t' then ['\\', 't']
  else if c = '\r' then ['\\', 'r']
  else if c.toNat = 0x8 then ['\\', 'b']
  else if c.toNat = 0xC then ['\\', 'f']
  else if c.toNat < 0x20 ∨ (0x7F ≤ c.toNat ∧ c.toNat < 0xA0) then
    '\\' :: 'x' :: (hexPadded 2 c.toNat).map Char.toUpper
  else [c]

/-- A text in quotes. -/
def quotedText (text : List Char) : List Char :=
  let quote := quoteFor text
  quote :: (text.flatMap (escapeChar quote) ++ [quote])

/-- Cut a text behind each line feed. -/
def cutBehindFeeds : List Char → List (List Char)
  | [] => []
  | '\n' :: rest => ['\n'] :: cutBehindFeeds rest
  | c :: rest =>
    match cutBehindFeeds rest with
    | [] => [[c]]
    | piece :: pieces => (c :: piece) :: pieces

/-- Pieces of a text with something between them. -/
def joinWith (between : List Char) : List (List Char) → List Char
  | [] => []
  | [piece] => piece
  | piece :: pieces => piece ++ between ++ joinWith between pieces

/-- A number of blanks. -/
def blanks (count : Nat) : List Char := List.replicate count ' '

/-- What stands for the end of a text that is too long. -/
def omittedText (count : Nat) : List Char :=
  if count = 0 then []
  else "... ".toList ++ (toString count).toList ++ " more character".toList ++
    (if count > 1 then ['s'] else [])

/-- A text at an indentation; one that does not fit on a line is cut behind its line feeds. -/
def ofText (indent : Nat) (text : List Char) : List Char :=
  let shown := takeUnits textLimit text
  let size := unitCount shown
  let omitted := omittedText (unitCount text - size)
  if size > cutSize ∧ size + indent + 4 > lineWidth then
    joinWith (" +\n".toList ++ blanks (indent + 2)) ((cutBehindFeeds shown).map quotedText) ++ omitted
  else quotedText shown ++ omitted

/-- The name of a member. -/
def memberName (name : String) : List Char :=
  let text := name.toList
  let isSimple :=
    match text with
    | [] => false
    | first :: others =>
      (first.isAlpha || first == '_') && others.all fun c => c.isAlphanum || c == '_'
  if name = "__proto__" then "['__proto__']".toList
  else if isSimple then text
  else quotedText text

/-! ## Laying out -/

/-- How many entries may share their line with others that are nested. -/
def nestingOnLine : Nat := 3

/-- The entries of an object between its brackets. -/
structure Layout where
  /-- How far the lines are indented. -/
  indent : Nat
  /-- How many levels of nesting there are below the object. -/
  nesting : Nat
  /-- What stands in front of the brackets. -/
  heading : List Char
  /-- The opening bracket, with what belongs to it. -/
  opening : List Char
  /-- The closing bracket. -/
  closing : List Char
  deriving DecidableEq, Repr

/-- Whether a number of columns is at most the best one for a group of entries of some sizes. The best
number would be the side of a square, characters being `5 / 2` times as high as wide, for entries of
the greatest size less three and less the root of the spread. -/
def isColumnCount (greatest whole shown count columns : Nat) : Bool :=
  let odd : Int := (2 * columns - 1 : Nat)
  let square := odd * odd
  let area : Int := 10 * shown
  let excess := square * ((greatest : Int) - 3) - area
  let spread : Int := greatest * count - whole
  decide (square ≤ area) &&
    (decide (excess ≤ 0) || decide (excess * excess * count ≤ square * square * spread))

/-- The number of columns of a group. -/
def columnsFor (indent greatest whole shown count : Nat) : Nat :=
  let best := ((List.range 16).filter (isColumnCount greatest whole shown count)).getLastD 0
  min best (min ((lineWidth - indent) / greatest) (min (nestingOnLine * 4) 15))

/-- The texts of one line of a group, filled up to the widths of their columns. -/
def groupLine (atEnd : Bool) : List (List Char) → List Nat → List Char
  | [entry], width :: _ =>
    if atEnd then blanks (width - 2 - columnCount entry) ++ entry else entry
  | entry :: entries, width :: widths =>
    let padding := blanks (width - 2 - columnCount entry)
    (if atEnd then padding ++ entry ++ ", ".toList else entry ++ ", ".toList ++ padding) ++
      groupLine atEnd entries widths
  | _, _ => []

/-- Cut a list into pieces of a length. -/
def piecesOf {α : Type} (size : Nat) (items : List α) : List (List α) :=
  go items.length items
where
  /-- Cut off at most a number of pieces. -/
  go : Nat → List α → List (List α)
    | 0, _ => []
    | fuel + 1, items =>
      if items.isEmpty then [] else items.take size :: go fuel (items.drop size)

/-- The greatest number of items of a list that are shown. -/
def itemLimit : Nat := 100

/-- Put many short entries of a list into columns. Numbers stand at the end of their columns. -/
def grouped (indent : Nat) (numeric : Bool) (entries : List (List Char)) : List (List Char) :=
  let shown := entries.take (if entries.length > itemLimit then entries.length - 1 else entries.length)
  let sizes := shown.map columnCount
  let whole := total (sizes.map (· + 2))
  let longest := sizes.foldl max 0
  let greatest := longest + 2
  if greatest * 3 + indent < lineWidth ∧ (whole > 5 * greatest ∨ longest ≤ 6) then
    let columns := columnsFor indent greatest whole shown.length entries.length
    if columns ≤ 1 then entries
    else
      let rows := piecesOf columns shown
      let width (column : Nat) : Nat :=
        (rows.map fun row => (row[column]?.map columnCount).getD 0).foldl max 0 + 2
      let widths := (List.range columns).map width
      rows.map (fun row => groupLine numeric row widths) ++ entries.drop shown.length
  else entries

/-- Lay out entries on one line, if they fit and no line ends inside them. -/
def Layout.onOneLine? (layout : Layout) (entries : List (List Char)) : Option (List Char) :=
  let start := entries.length + layout.indent + unitCount layout.opening +
    unitCount layout.heading + 10
  let size := entries.length + start
  if layout.nesting < nestingOnLine ∧ size + entries.length ≤ lineWidth ∧
      size + total (entries.map unitCount) ≤ lineWidth ∧
      !layout.heading.contains '\n' ∧ !entries.any (·.contains '\n') then
    some (layout.opening ++ ' ' :: (joinWith ", ".toList entries ++ ' ' :: layout.closing))
  else none

/-- Lay out entries, each on a line of its own. -/
def Layout.onLines (layout : Layout) (entries : List (List Char)) : List Char :=
  let start := '\n' :: blanks layout.indent
  layout.opening ++ start ++ ' ' :: ' ' ::
    (joinWith (',' :: (start ++ [' ', ' '])) entries ++ start ++ layout.closing)

/-- Lay out entries that are not grouped, or as they are grouped. -/
def Layout.text (layout : Layout) (entries groups : List (List Char)) : List Char :=
  let body :=
    if entries.length = groups.length then
      (layout.onOneLine? groups).getD (layout.onLines groups)
    else layout.onLines groups
  if layout.heading.isEmpty then body else layout.heading ++ ' ' :: body

/-! ## Error objects -/

/-- Whether a text stands somewhere in another one. -/
def holds (part : List Char) : List Char → Bool
  | [] => part.isEmpty
  | c :: rest => (expect part (c :: rest)).isSome || holds part rest

/-- The text behind the first place of a part, and whether that place is the front. -/
def afterFirst? (part : List Char) : List Char → Option (List Char)
  | [] => expect part []
  | c :: rest => (expect part (c :: rest)).or (afterFirst? part rest)

/-- The name of the class of error objects. -/
def faultClass : List Char := "Error".toList

/-- The stack of an error object with the class in front of a name that the class does not show. -/
def namedStack (name stack : List Char) : List Char :=
  let isNamed :=
    match expect name stack with
    | some [] => true
    | some (c :: _) => c == ':' || c == '\n'
    | none => false
  let endsInClass := name.drop (name.length - faultClass.length) == faultClass
  if endsInClass && isNamed && name != faultClass then
    faultClass ++ " [".toList ++ name ++ ']' :: stack.drop name.length
  else stack

/-- The text of an error object: its stack, in brackets if it names no place. -/
def ofStack (indent : Nat) (name message stack : List Char) : List Char :=
  let named := namedStack name stack
  let afterMessage :=
    if message.isEmpty || (expect message named).isSome then named
    else (afterFirst? message named).getD named
  let framed := if holds "\n    at".toList afterMessage then named else '[' :: (named ++ [']'])
  framed.flatMap fun c => if c = '\n' then '\n' :: blanks indent else [c]

/-! ## Values -/

/-- What is remembered from one part of a value to the next. -/
structure Trace where
  /-- The level of the object that was entered last. -/
  level : Nat
  /-- How many objects were found inside themselves. -/
  references : Nat
  /-- The references to promises, by their numbers. -/
  promises : List (Nat × Nat)
  deriving DecidableEq, Repr

/-- The trace after an object of a level is entered. -/
def Trace.enter (trace : Trace) (level : Nat) : Trace := { trace with level := level + 1 }

/-- Where a value stands. -/
structure Place where
  /-- How far its lines are indented. -/
  indent : Nat
  /-- How many objects it is inside of. -/
  level : Nat
  /-- The promises it is inside of. -/
  path : List Nat
  deriving DecidableEq, Repr

/-- The place of a part of an object. -/
def Place.inside (place : Place) : Place :=
  { place with indent := place.indent + 2, level := place.level + 1 }

/-- Shows a promise at a place. -/
abbrev PromiseView := Place → Trace → Nat → List Char × Trace

/-- The layout of an object at a place, given the trace after its parts. -/
def layoutAt (place : Place) (trace : Trace) (heading opening closing : List Char) : Layout :=
  ⟨place.indent, trace.level - (place.level + 1), heading, opening, closing⟩

/-- What stands in front of the opening brace of a record. -/
def shapePrefix : Shape → List Char
  | .ofClass name => if name = "Object" ∨ name.isEmpty then [] else name.toList ++ [' ']
  | .bare => "[Object: null prototype] ".toList
  | _ => []

/-- A text in brackets. -/
def bracketed (text : List Char) : List Char := '[' :: (text ++ [']'])

/-- What stands for a record that is not shown. -/
def hiddenRecord : Shape → List Char
  | .ofClass name => bracketed (if name.isEmpty then "Object".toList else name.toList)
  | .bare => bracketed "Object: null prototype".toList
  | _ => bracketed "Object".toList

/-- A reference to an object from inside it. -/
def referenceText (index : Nat) : List Char :=
  bracketed ("Circular *".toList ++ (toString index).toList)

/-- The mark of an object that a reference refers to. -/
def referenceMark (index : Nat) : List Char := "<ref *".toList ++ (toString index).toList ++ ['>']

/-- A value without parts. -/
def ofAtom (indent : Nat) : Value → List Char
  | .missing => "undefined".toList
  | .null => "null".toList
  | .bool value => (if value then "true" else "false").toList
  | .number value => inspectionLayout.text value
  | .big value => (toString value).toList ++ ['n']
  | .text value => ofText indent value.toList
  | .symbol name => "Symbol(".toList ++ name.toList ++ [')']
  | .function name =>
    if name.isEmpty then "[Function (anonymous)]".toList
    else bracketed ("Function: ".toList ++ name.toList)
  | _ => []

/-- Whether a value is a number of either kind. -/
def isNumeric : Value → Bool
  | .number _ | .big _ => true
  | _ => false

/-- The entry for the length of a list. -/
def lengthEntry (count : Nat) : List Char := "[length]: ".toList ++ (toString count).toList

/-- What stands for the items of a list that are not shown. -/
def omittedItems (count : Nat) : List Char :=
  "... ".toList ++ (toString count).toList ++ " more item".toList ++ (if count > 1 then ['s'] else [])

mutual

/-- Inspect a value at a place. -/
def ofValue (inspection : Inspection) (view : PromiseView) (place : Place) (trace : Trace) :
    Value → List Char × Trace
  | .list items =>
    if items.isEmpty && !inspection.lengths then ("[]".toList, trace)
    else if inspection.hides place.level then ("[Array]".toList, trace)
    else
      let (shown, after) :=
        ofItems inspection view place.inside (trace.enter place.level) itemLimit items
      let entries := if inspection.lengths then shown ++ [lengthEntry items.length] else shown
      let numeric := decide (entries.length ≤ items.length) &&
        (items.take entries.length).all isNumeric
      let groups := if entries.length > 6 then grouped place.indent numeric entries else entries
      ((layoutAt place after [] ['['] [']']).text entries groups, after)
  | .record shape members =>
    let opening := shapePrefix shape ++ ['{']
    if members.isEmpty && shape != .circular then (opening ++ ['}'], trace)
    else if inspection.hides place.level then (hiddenRecord shape, trace)
    else
      let (shown, after) := ofMembers inspection view place.inside (trace.enter place.level) members
      if shape = .circular then
        let index := after.references + 1
        let entries := shown ++ ["self: ".toList ++ referenceText index]
        let after := { after with references := index }
        ((layoutAt place after (referenceMark index) opening ['}']).text entries entries, after)
      else ((layoutAt place after [] opening ['}']).text shown shown, after)
  | .fault name message stack =>
    let report := if stack.isEmpty then Value.faultSummary name message else stack
    let shown := ofStack place.indent name.toList message.toList report.toList
    if holds name.toList report.toList then (shown, trace)
    else if inspection.hides place.level then (bracketed faultClass, trace)
    else
      let after := trace.enter place.level
      let entry := "name: ".toList ++ ofText (place.indent + 2) name.toList
      ((layoutAt place after shown ['{'] ['}']).text [entry] [entry], after)
  | .promise id => view place trace id
  | atom => (ofAtom place.indent atom, trace)

/-- Inspect the items of a list, at most a number of them. -/
def ofItems (inspection : Inspection) (view : PromiseView) (place : Place) (trace : Trace) :
    Nat → List Value → List (List Char) × Trace
  | _, [] => ([], trace)
  | 0, _ :: items => ([omittedItems (items.length + 1)], trace)
  | room + 1, item :: items =>
    let (first, trace) := ofValue inspection view place trace item
    let (others, trace) := ofItems inspection view place trace room items
    (first :: others, trace)

/-- Inspect the members of a record. -/
def ofMembers (inspection : Inspection) (view : PromiseView) (place : Place) (trace : Trace) :
    List (String × Value) → List (List Char) × Trace
  | [] => ([], trace)
  | (name, value) :: members =>
    let (first, trace) := ofValue inspection view place trace value
    let (others, trace) := ofMembers inspection view place trace members
    ((memberName name ++ ": ".toList ++ first) :: others, trace)

end

/-- Show a promise that is not settled. -/
def pendingEntry : List Char := "<pending>".toList

/-- Show a promise by what became of it, with a bound on the promises inside promises. -/
def viewPromise (inspection : Inspection) (promises : Promises) : Nat → PromiseView
  | 0, _, trace, _ => (bracketed "Promise".toList, trace)
  | fuel + 1, place, trace, id =>
    if place.path.contains id then
      match trace.promises.find? (·.1 == id) with
      | some (_, index) => (referenceText index, trace)
      | none =>
        let index := trace.references + 1
        (referenceText index,
          { trace with references := index, promises := (id, index) :: trace.promises })
    else if inspection.hides place.level then (bracketed "Promise".toList, trace)
    else
      let within : Place := { place.inside with path := id :: place.path }
      let entered := trace.enter place.level
      let (entry, after) :=
        match promises.settlement? (.told id) with
        | none => (pendingEntry, entered)
        | some (.fulfilled value) =>
          ofValue inspection (viewPromise inspection promises fuel) within entered value
        | some (.rejected reason) =>
          let (text, after) :=
            ofValue inspection (viewPromise inspection promises fuel) within entered reason
          ("<rejected> ".toList ++ text, after)
        | some (.unreadable shown _) => (shown.toList, entered)
      let heading :=
        ((after.promises.find? (·.1 == id)).map fun (_, index) => referenceMark index).getD []
      ((layoutAt place after heading "Promise \x7b".toList ['}']).text [entry] [entry], after)

/-- The text that shows a value. -/
def inspect (inspection : Inspection) (promises : Promises) (value : Value) : List Char :=
  (ofValue inspection (viewPromise inspection promises (promises.length + 1)) ⟨0, 0, []⟩ ⟨0, 0, []⟩
    value).1

end Inspection

end Marginalia.Script
