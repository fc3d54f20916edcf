import Marginalia.Proofs.Preparation.Stability
import Marginalia.Proofs.Text.Words

/-! # Tagged lines
What tagging does to a line is said without the reader of calls: at each place a call either stands, and the
tagged call takes its place, or the character there is kept (`CallsTagged`). The text of a call says which
function it calls and where it ends (`IsCallOf.unique`), so this leaves exactly one tagged line, and that is the
line which tagging gives. Lines and breaks stay, and no call is left (`calls_tagged_in_place`). -/

namespace Marginalia.Preparation

open Text Marker

/-! ## The text of a call -/

/-- The texts that call a function: its word, a dot, its name and a parenthesis, with white space between them. -/
def IsCallOf (function written : List Char) : Prop :=
  ∃ first second third, Blank first ∧ Blank second ∧ Blank third ∧
    written = "console".toList ++ (first ++ '.' :: (second ++ (function ++ (third ++ ['(']))))

/-- A call of one of some functions is a call of one of them. -/
theorem isCall_iff {functions : List (List Char)} {written : List Char} :
    IsCall functions written ↔ ∃ function ∈ functions, IsCallOf function written :=
  Iff.rfl

/-- A call takes at least its word. -/
theorem IsCallOf.ne_nil {function written : List Char} (call : IsCallOf function written) : written ≠ [] := by
  obtain ⟨first, second, third, -, -, -, rfl⟩ := call
  exact List.cons_ne_nil _ _

/-- A character that is neither white space nor the parenthesis in front of arguments. -/
def isSolid (c : Char) : Bool := !isBlank c && c != '('

/-- Behind the dot of a call, the function ends where white space or the parenthesis comes. -/
theorem span_called {function second third : List Char} (solid : ∀ c ∈ function, isSolid c = true)
    (blankSecond : Blank second) (blankThird : Blank third) (after : List Char) :
    ∃ behind, spanOf isSolid (skipBlanks (second ++ (function ++ (third ++ '(' :: after)))) = (function, behind) ∧
      skipBlanks behind = '(' :: after := by
  have bracket : isBlank '(' = false := by decide
  have stop : isSolid '(' = false := by decide
  cases function with
  | nil =>
    -- Without a name, the white space on both sides of it is skipped at once.
    have skipped : skipBlanks (second ++ ([] ++ (third ++ '(' :: after))) = '(' :: after := by
      refine (skipBlanks_eq_cons_iff bracket).mpr ⟨second ++ third, ?_, by simp⟩
      intro c member
      exact (List.mem_append.mp member).elim (blankSecond c) (blankThird c)
    refine ⟨'(' :: after, ?_, (skipBlanks_eq_cons_iff bracket).mpr ⟨[], List.forall_mem_nil _, rfl⟩⟩
    rw [skipped]
    exact spanOf_append_cons (List.forall_mem_nil _) stop after
  | cons c others =>
    have start : isBlank c = false := by
      have here := solid c List.mem_cons_self
      simp only [isSolid, Bool.and_eq_true, Bool.not_eq_true'] at here
      exact here.1
    have skipped : skipBlanks (second ++ (c :: others ++ (third ++ '(' :: after))) =
        c :: others ++ (third ++ '(' :: after) :=
      (skipBlanks_eq_cons_iff start).mpr ⟨second, blankSecond, rfl⟩
    refine ⟨third ++ '(' :: after, ?_, (skipBlanks_eq_cons_iff bracket).mpr ⟨third, blankThird, rfl⟩⟩
    rw [skipped]
    cases third with
    | nil => exact spanOf_append_cons solid stop after
    | cons d third =>
      have blank : isSolid d = false := by
        rw [isSolid, blankThird d List.mem_cons_self, Bool.not_true, Bool.false_and]
      exact spanOf_append_cons solid blank (third ++ '(' :: after)

/-- **One reading.** Two calls in front of the same text are one call, of one function. -/
theorem IsCallOf.unique {function other written read after rest : List Char} (call : IsCallOf function written)
    (again : IsCallOf other read) (solid : ∀ c ∈ function, isSolid c = true)
    (solidOther : ∀ c ∈ other, isSolid c = true) (parts : written ++ after = read ++ rest) :
    function = other ∧ written = read := by
  obtain ⟨first, second, third, blankFirst, blankSecond, blankThird, rfl⟩ := call
  obtain ⟨first', second', third', blankFirst', blankSecond', blankThird', rfl⟩ := again
  have whole := parts
  simp only [List.append_assoc, List.cons_append, List.nil_append] at parts
  have parts := List.append_cancel_left parts
  -- Up to its dot a call holds no other dot, and then the function is read.
  have dot : isBlank '.' = false := by decide
  obtain rfl : first = first' := eq_of_append_cons (blankFirst.not_mem dot) (blankFirst'.not_mem dot) parts
  have called := (List.cons.inj (List.append_cancel_left parts)).2
  obtain ⟨behind, span, ends⟩ := span_called solid blankSecond blankThird after
  obtain ⟨behind', span', ends'⟩ := span_called solidOther blankSecond' blankThird' rest
  rw [called, span'] at span
  obtain ⟨rfl, rfl⟩ := Prod.mk.inj span
  obtain rfl : after = rest := (List.cons.inj (ends.symm.trans ends')).2
  exact ⟨rfl, List.append_cancel_right whole⟩

section Functions

variable {functions : List (List Char)}
  (identifiers : ∀ function ∈ functions, isIdentifier function = true)

include identifiers in
/-- The functions looked for hold neither white space nor a parenthesis. -/
theorem isSolid_of_called {function : List Char} (known : function ∈ calledFunctions functions) :
    ∀ c ∈ function, isSolid c = true := by
  intro c member
  have solid : isBlank c = false := by
    cases blank : isBlank c with
    | false => rfl
    | true =>
      exact absurd member (not_mem_of_called identifiers known (isIdentifierStart_of_isBlank blank)
        (isIdentifierPart_of_isBlank blank))
  have noBracket : c ≠ '(' := by
    rintro rfl
    exact not_mem_of_called identifiers known (by decide) (by decide) member
  simp [isSolid, solid, noBracket]

include identifiers in
/-- A call is read exactly where its word may start and its text stands in front. -/
theorem readConsoleCall_eq_some_iff {before : Option Char} {text function after : List Char} :
    readConsoleCall (calledFunctions functions) before text = some (function, after) ↔
      mayStartConsole before = true ∧ function ∈ calledFunctions functions ∧
        ∃ written, IsCallOf function written ∧ text = written ++ after := by
  have sound {function after : List Char}
      (read : readConsoleCall (calledFunctions functions) before text = some (function, after)) :
      function ∈ calledFunctions functions ∧ ∃ written, IsCallOf function written ∧ text = written ++ after := by
    obtain ⟨known, first, second, third, blankFirst, blankSecond, blankThird, parts⟩ :=
      exists_of_readConsoleCall read
    exact ⟨known, _, ⟨first, second, third, blankFirst, blankSecond, blankThird, rfl⟩, by simp [parts]⟩
  constructor
  · intro read
    exact ⟨mayStartConsole_of_readConsoleCall read, sound read⟩
  · rintro ⟨starts, known, written, call, parts⟩
    have stands : (readConsoleCall (calledFunctions functions) before text).isSome = true :=
      isSome_readConsoleCall.mpr ⟨starts, written, isCall_iff.mpr ⟨function, known, call⟩, after, parts.symm⟩
    obtain ⟨⟨other, rest⟩, read⟩ := Option.isSome_iff_exists.mp stands
    -- What is read is a call in front of the same text, so it is this call.
    obtain ⟨knownOther, found, callOther, partsOther⟩ := sound read
    have same := parts.symm.trans partsOther
    obtain ⟨rfl, rfl⟩ := call.unique callOther (isSolid_of_called identifiers known)
      (isSolid_of_called identifiers knownOther) same
    rw [read, List.append_cancel_left same]

end Functions

/-! ## Lines with their calls tagged -/

/-- A line and the line with the calls of some functions tagged by a number, given the character before it. -/
inductive CallsTagged (functions : List (List Char)) (number : Nat) :
    Option Char → List Char → List Char → Prop where
  /-- The end of the line. -/
  | nil (before : Option Char) : CallsTagged functions number before [] []
  /-- A character at which no call stands is kept. -/
  | kept {before : Option Char} {c : Char} {rest shown : List Char}
      (apart : mayStartConsole before = true → ∀ written, IsCall functions written → ¬ written <+: c :: rest)
      (others : CallsTagged functions number (some c) rest shown) :
      CallsTagged functions number before (c :: rest) (c :: shown)
  /-- A call is replaced by the tagged call of its function. -/
  | tagged {before : Option Char} {function written rest shown : List Char}
      (starts : mayStartConsole before = true) (known : function ∈ functions)
      (call : IsCallOf function written)
      (others : CallsTagged functions number written.getLast? rest shown) :
      CallsTagged functions number before (written ++ rest) (consoleCall function number ++ shown)

/-- Without functions, a line is kept as it is. -/
theorem CallsTagged.eq_of_nil {number : Nat} {before : Option Char} {line shown : List Char}
    (tagged : CallsTagged [] number before line shown) : shown = line := by
  induction tagged with
  | nil => rfl
  | kept _ _ ih => exact congrArg _ ih
  | tagged _ known => cases known

section Functions

variable {functions : List (List Char)}
  (identifiers : ∀ function ∈ functions, isIdentifier function = true)

include identifiers in
/-- Exactly one text is a line with its calls tagged: what is shown for its pieces. -/
theorem callsTagged_iff {number : Nat} {before : Option Char} {line shown : List Char} :
    CallsTagged (calledFunctions functions) number before line shown ↔
      shown = (scan (readConsoleCall (calledFunctions functions)) before line).flatMap
        (Piece.shown fun _ function => consoleCall function number) := by
  constructor
  · intro tagged
    induction tagged with
    | nil before => rw [scan_nil, List.flatMap_nil]
    | @kept before c rest shown apart others ih =>
      have nothing : readConsoleCall (calledFunctions functions) before (c :: rest) = none := by
        rw [← Option.not_isSome_iff_eq_none, isSome_readConsoleCall]
        rintro ⟨starts, written, call, stands⟩
        exact apart starts written call stands
      rw [scan_cons_of_none nothing, List.flatMap_cons, Piece.shown_char, List.singleton_append, ← ih]
    | @tagged before function written rest shown starts known call others ih =>
      have read : readConsoleCall (calledFunctions functions) before (written ++ rest) = some (function, rest) :=
        (readConsoleCall_eq_some_iff identifiers).mpr ⟨starts, known, written, call, rfl⟩
      rw [scan_append_of_some call.ne_nil read, List.flatMap_cons, Piece.shown_construct, ← ih]
  · rintro rfl
    have front := readsFront_readConsoleCall (calledFunctions functions)
    -- The cases are those of the scan: at its end, where nothing is read, and where a call is read.
    induction before, line using front.induction with
    | nil before =>
      rw [scan_nil]
      exact .nil before
    | char before c rest nothing ih =>
      rw [scan_cons_of_none nothing, List.flatMap_cons]
      refine .kept (fun starts written call stands => ?_) ih
      have read := isSome_readConsoleCall.mpr ⟨starts, written, call, stands⟩
      rw [nothing] at read
      cases read
    | construct before written function after something read ih =>
      obtain ⟨starts, known, same, call, parts⟩ := (readConsoleCall_eq_some_iff identifiers).mp read
      rw [scan_append_of_some something read, List.flatMap_cons]
      exact .tagged starts known (List.append_cancel_right parts ▸ call) ih

end Functions

end Marginalia.Preparation

namespace Marginalia

open Text Preparation

/-- How a text with tagged calls relates to the text before. -/
structure TaggedInPlace (functions : List (List Char)) (text tagged : List Char) : Prop where
  /-- There are as many lines. -/
  lines : (physicalLines tagged).length = (physicalLines text).length
  /-- The breaks between them are the same. -/
  breaks : (splitLines tagged).2 = (splitLines text).2
  /-- No call stands at any place of a line. -/
  complete : ∀ line ∈ physicalLines tagged, LacksCalls functions none line
  /-- Tagging changes nothing more. -/
  final : tagCalls functions tagged = tagged
  /-- In place of a line stands the one line that has its calls tagged with the number of the line. -/
  inPlace : ∀ (place : Nat) line, (physicalLines text)[place]? = some line →
    ∃ after, (physicalLines tagged)[place]? = some after ∧
      ∀ shown, CallsTagged (calledFunctions functions) (place + 1) none line shown ↔ shown = after

/-- **Calls are tagged in place.** For every text and all identifiers as functions, tagging keeps the lines and
their breaks and leaves no call, and each line becomes the line with just its calls replaced, each by the tagged
call of its function with the number of the line. Without any functions, a call without a name is looked for. -/
theorem calls_tagged_in_place {functions : List (List Char)}
    (identifiers : ∀ function ∈ functions, isIdentifier function = true) (text : List Char) :
    TaggedInPlace functions text (tagCalls functions text) := by
  have cut := cut_tagLinesFrom identifiers (cut_splitLines text) 1
  have parts : splitLines (tagCalls functions text) =
      (tagLinesFrom functions 1 (splitLines text).1, (splitLines text).2) := splitLines_joinLines cut
  have lacks := lacksCalls_tagLinesFrom identifiers 1 (splitLines text).1
  constructor
  case lines => rw [physicalLines, parts, length_tagLinesFrom, physicalLines]
  case breaks => rw [parts]
  case complete =>
    rw [physicalLines, parts]
    exact lacks
  case final =>
    rw [tagCalls, parts, tagLinesFrom_of_lacksCalls lacks]
    rfl
  case inPlace =>
    intro place line found
    refine ⟨tagLine functions (place + 1) line, ?_, fun shown => callsTagged_iff identifiers⟩
    rw [physicalLines] at found
    rw [physicalLines, parts, getElem?_tagLinesFrom, found, Option.map_some, Nat.add_comm]

/-- Two functions, one with the name of the other in front, on lines with different breaks. -/
theorem calls_tagged_in_place_of_two_functions :
    let functions := ["log".toList, "logger".toList]
    let text := "console.logger(console .log (1))\r\n$console.log(2)\nconsole.table(3)".toList
    let tagged := ("global['`console`'].logger(1, global['`console`'].log(1, 1))\r\n" ++
      "$console.log(2)\nconsole.table(3)").toList
    (∀ function ∈ functions, isIdentifier function = true) ∧ TaggedInPlace functions text tagged := by
  intro functions text tagged
  have identifiers : ∀ function ∈ functions, isIdentifier function = true := by decide +kernel
  have same : tagCalls functions text = tagged := by decide +kernel
  exact ⟨identifiers, same ▸ calls_tagged_in_place identifiers text⟩

/-- Without any functions, a call without a name is tagged, and so the line is not kept. -/
theorem calls_tagged_without_functions :
    let line := "console.(1)".toList
    physicalLines line = [line] ∧ tagCalls [] line = "global['`console`'].(1, 1)".toList ∧
      ¬ CallsTagged [] 1 none line (tagCalls [] line) := by
  intro line
  have tagged : tagCalls [] line = "global['`console`'].(1, 1)".toList := by decide +kernel
  refine ⟨by decide +kernel, tagged, fun kept => ?_⟩
  have same : tagCalls [] line = line := kept.eq_of_nil
  rw [tagged] at same
  exact absurd same (by decide +kernel)

end Marginalia
