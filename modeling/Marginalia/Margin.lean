import Marginalia.Classification
import Marginalia.Event
import Marginalia.Listener
import Marginalia.Log.Record
import Marginalia.Text.Line

/-! # The margin
The margin holds at most one annotation for each line of the document, in the order of the lines.
Printed texts of one line gather in one annotation; a value or an error takes the place of what was
there. After each change every listener gets the whole margin. Annotations are short: one line, cut
to a limit (`shorten`). -/

namespace Marginalia

open Text

/-- The beginning of a text up to an index; a negative index counts from the end. -/
def takeTo (index : Int) (text : List Char) : List Char :=
  match index with
  | .ofNat count => text.take count
  | .negSucc missing => text.take (text.length - (missing + 1))

/-- The mark at the end of a text that was cut. -/
def ellipsis : Char := '…'

/-- A text on one line, cut to a limit. -/
def shorten (limit : Int) (text : List Char) : List Char :=
  let line := oneLine text
  if (line.length : Int) ≤ limit then line else takeTo (limit - 1) line ++ [ellipsis]

/-- A string on one line, cut to a limit. -/
def shortened (limit : Int) (text : String) : String := String.ofList (shorten limit text.toList)

/-- What stands in the margin of one line. -/
structure Annotation where
  /-- The line. -/
  line : Nat
  /-- The kind of the output shown. -/
  kind : OutputKind
  /-- The text shown beside the line. -/
  short : String
  /-- The text in full. -/
  detail : String
  deriving DecidableEq, Repr

/-- The first of two texts that is not empty. -/
def firstNonempty (text other : String) : String := if text.isEmpty then other else text

/-- The short and the full text of a classified payload. -/
def Payload.describe? (limit : Int) : Payload → Option (String × String)
  | .expression value => some (shortened limit value.text, firstNonempty value.detail value.text)
  | .error descriptor =>
    some (shortened limit descriptor.summary, firstNonempty descriptor.detail descriptor.summary)
  | .console text => some (shortened limit text, text)
  | .raw _ => none

/-- The annotations of the current run and who hears of them. -/
structure Margin where
  /-- The limit of the short texts. -/
  limit : Int
  /-- The annotations, by ascending line. -/
  annotations : List Annotation
  /-- The listeners, in the order in which they were added. -/
  listeners : List Listener
  /-- A text that makes the margin refuse an event that carries it. -/
  refused : Option String
  deriving DecidableEq, Repr

/-- What changes of the margin bring about, in order. -/
structure MarginReport where
  /-- The annotations received, with the listener that received them. -/
  published : List (Listener × List Annotation)
  /-- The log records. -/
  logs : List Log.Record
  deriving DecidableEq, Repr

/-- Nothing to report. -/
def MarginReport.none : MarginReport := ⟨[], []⟩

/-- Put an annotation in its place among annotations by ascending line. -/
def putNote (note : Annotation) : List Annotation → List Annotation
  | [] => [note]
  | first :: others =>
    if note.line < first.line then note :: first :: others
    else if note.line = first.line then note :: others
    else first :: putNote note others

namespace Margin

/-- The limit of the short texts where none is given. -/
def defaultLimit : Int := 120

/-- A margin without annotations and listeners. -/
def empty (limit : Int) : Margin := ⟨limit, [], [], none⟩

/-- The annotation of a line. -/
def get? (margin : Margin) (line : Nat) : Option Annotation :=
  margin.annotations.find? (·.line == line)

/-- The annotations of all lines but one. -/
def except (margin : Margin) (line : Int) : List Annotation :=
  margin.annotations.filter fun note => (note.line : Int) ≠ line

/-- Add a listener; it may be added more than once. -/
def addListener (margin : Margin) (listener : Listener) : Margin :=
  { margin with listeners := margin.listeners ++ [listener] }

/-- Remove a listener once, if it was added. -/
def removeListener (margin : Margin) (listener : Listener) : Margin :=
  { margin with listeners := margin.listeners.erase listener }

/-- Give some annotations to every listener; one that fails is reported and does not stop the
others. -/
def publish (margin : Margin) (annotations : List Annotation) : MarginReport where
  published := margin.listeners.map fun listener => (listener, annotations)
  logs := (margin.listeners.filter (·.fails)).map fun _ =>
    ⟨.table, .error, "Annotation listener failed"⟩

/-- Remove all annotations, at the start of a run. -/
def reset (margin : Margin) : Margin × MarginReport :=
  ({ margin with annotations := [] }, margin.publish [])

/-- The annotation of a line after an event: printed texts are joined, anything else replaces. -/
def annotate (margin : Margin) (line : Nat) (kind : OutputKind) (short detail : String) :
    Annotation :=
  match kind, margin.get? line with
  | .terminal, some ⟨_, .terminal, oldShort, oldDetail⟩ =>
    ⟨line, .terminal, shortened margin.limit (oldShort ++ ", " ++ short), oldDetail ++ "\n" ++ detail⟩
  | kind, _ => ⟨line, kind, short, detail⟩

/-- The echo of a classified event in the log. -/
def echo (event : Event) : List Log.Record :=
  match event.payload with
  | .console text => [⟨.table, .info, "  " ++ text⟩]
  | .error descriptor => [⟨.table, .info, s!"  {descriptor.summary}\n\tat line {event.line}"⟩]
  | _ => []

/-- Apply a classified event. -/
def applyClassified (margin : Margin) (event : Event) : Margin × MarginReport :=
  match event.payload.kind?, event.payload.describe? margin.limit with
  | some kind, some (short, detail) =>
    let note := margin.annotate event.line kind short detail
    let margin := { margin with annotations := putNote note margin.annotations }
    let report := margin.publish margin.annotations
    let trace : Log.Record :=
      ⟨.table, .debug, s!"  line {note.line} [{note.kind.name}] {note.short}"⟩
    (margin, { report with logs := trace :: (echo event ++ report.logs) })
  | _, _ => (margin, .none)

/-- Apply an event; text that is not classified is classified first and may be dropped. An event that cannot be
classified fails (`Event.fault?`) and changes nothing. -/
def update (margin : Margin) (event : Event) : Margin × MarginReport :=
  match event.classify? with
  | .ok (some classified, logs) =>
    let (margin, report) := margin.applyClassified classified
    (margin, { report with logs := logs ++ report.logs })
  | .ok (none, logs) =>
    (margin, ⟨[], logs ++ [⟨.table, .debug, s!"Discarded output on line {event.line}"⟩]⟩)
  | .error _ => (margin, .none)

/-- An event that cannot be classified changes nothing. -/
theorem update_of_error {event : Event} {fault : NumeralError} (failed : event.classify? = .error fault)
    (margin : Margin) : margin.update event = (margin, .none) := by
  rw [update, failed]

/-- Whether the margin refuses an event. -/
def refuses (margin : Margin) (event : Event) : Bool :=
  margin.refused.isSome && event.payload.text? == margin.refused

end Margin

end Marginalia
