import Marginalia.Proofs.Preparation.ImportSyntax
import Marginalia.Proofs.Preparation.Quotations

/-! # Imports in every layout
A text of written imports, each with white space and semicolons behind it, is turned into `require` calls import
by import (`importsAsRequires_importLines`). The first pass reads each import as it was written, since nothing
between two of them starts a keyword. The second pass finds nothing more to do: each statement has one pair of
quotation marks, the opening one behind a parenthesis, and between the closing one and the next opening one the
line ends, which the name of a module does not go over. -/

namespace Marginalia.Preparation

open Text

/-- A text of white space and semicolons. -/
def Loose (text : List Char) : Prop := ∀ c ∈ text, isBlank c = true ∨ c = ';'

instance (text : List Char) : Decidable (Loose text) :=
  List.decidableBAll (fun c => isBlank c = true ∨ c = ';') text

/-- An import and what stands between it and the next: white space and semicolons. -/
structure ImportLine where
  /-- The import. -/
  written : WrittenImport
  /-- What stands behind it. -/
  ending : List Char
  /-- Nothing else stands behind it. -/
  loose : Loose ending

namespace ImportLine

/-- The text of an import and what stands behind it. -/
def text (line : ImportLine) : List Char := line.written.text ++ line.ending

/-- What the text is turned into: the statement for the import, a line feed for each that the import was written
over, and what stands behind it. -/
def replacement (line : ImportLine) : List Char :=
  line.written.statement ++ (List.replicate (lineFeeds line.written.text) '\n' ++ line.ending)

/-- Whether the line ends behind the import. -/
def Breaks (line : ImportLine) : Prop := '\n' ∈ line.ending ∨ '\r' ∈ line.ending

instance (line : ImportLine) : Decidable line.Breaks := inferInstanceAs (Decidable (_ ∨ _))

end ImportLine

/-- Where every line of some but the last ends behind its import, the first does if others follow, and so do the
others. -/
theorem breaks_of_dropLast {line : ImportLine} {lines : List ImportLine}
    (apart : ∀ other ∈ (line :: lines).dropLast, other.Breaks) :
    (lines ≠ [] → line.Breaks) ∧ ∀ other ∈ lines.dropLast, other.Breaks := by
  by_cases last : lines = []
  · rw [last]
    exact ⟨absurd rfl, List.forall_mem_nil _⟩
  · rw [List.dropLast_cons_of_ne_nil last] at apart
    obtain ⟨breaks, others⟩ := List.forall_mem_cons.mp apart
    exact ⟨fun _ => breaks, others⟩

/-! ## The first pass -/

/-- No import starts with another letter than the keyword. -/
theorem readImport_cons_of_ne {c : Char} (other : c ≠ 'i') (before : Option Char) (text : List Char) :
    readImport before (c :: text) = none := by
  have unopened : expect "import".toList (c :: text) = none := if_neg other
  rw [readImport, unopened]
  split
  · rfl
  · rfl

/-- White space and semicolons hold no import and stay. -/
theorem scan_append_loose {ending : List Char} (loose : Loose ending)
    (before : Option Char) (rest : List Char) :
    scan readImport before (ending ++ rest) =
      ending.map .char ++ scan readImport (ending.getLast?.or before) rest := by
  induction ending generalizing before with
  | nil => rfl
  | cons c ending ih =>
    obtain ⟨isFirst, others⟩ := List.forall_mem_cons.mp loose
    have other : c ≠ 'i' := by
      rintro rfl
      exact absurd isFirst (by decide)
    rw [List.cons_append, scan_cons_of_none (readImport_cons_of_ne other before _), ih others, List.map_cons,
      List.cons_append, List.getLast?_cons, Option.some_or, ← Option.or_some]

/-- Behind white space and semicolons a keyword may start. -/
theorem mayStartKeyword_getLast? {ending : List Char} (loose : Loose ending)
    (something : ending ≠ []) (before : Option Char) : mayStartKeyword (ending.getLast?.or before) = true := by
  rw [List.getLast?_eq_some_getLast something, Option.some_or]
  rcases loose _ (List.getLast_mem something) with blank | semicolon
  · exact mayStartKeyword_of_isBlank blank
  · rw [semicolon]
    decide

/-- An import is replaced by the statement for it and the line feeds that it was written over. -/
theorem WrittenImport.renderImport_declaration (written : WrittenImport) :
    renderImport written.text written.declaration =
      written.statement ++ List.replicate (lineFeeds written.text) '\n' := by
  rw [renderImport, if_neg (Bool.eq_false_iff.mp written.isFromOnly_declaration), written.statement_declaration]

/-- **The first pass** turns each import into its statement. -/
theorem replace_readImport_importLines {lines : List ImportLine}
    (apart : ∀ line ∈ lines.dropLast, line.Breaks) :
    replace readImport renderImport (lines.flatMap ImportLine.text) = lines.flatMap ImportLine.replacement := by
  have general {before : Option Char} (starts : mayStartKeyword before = true) :
      (scan readImport before (lines.flatMap ImportLine.text)).flatMap (Piece.shown renderImport) =
        lines.flatMap ImportLine.replacement := by
    induction lines generalizing before with
    | nil =>
      rw [List.flatMap_nil, scan_nil]
      rfl
    | cons line lines ih =>
      -- What stands behind the import shows as it is, and the next import may start behind it.
      have later : (scan readImport (line.ending.getLast?.or line.written.text.getLast?)
          (lines.flatMap ImportLine.text)).flatMap (Piece.shown renderImport) =
            lines.flatMap ImportLine.replacement := by
        by_cases last : lines = []
        · rw [last, List.flatMap_nil, scan_nil]
          rfl
        · obtain ⟨breaks, others⟩ := breaks_of_dropLast apart
          refine ih others (mayStartKeyword_getLast? line.loose ?_ _)
          rcases breaks last with feed | carriage
          · exact List.ne_nil_of_mem feed
          · exact List.ne_nil_of_mem carriage
      have ending : (line.ending.map Piece.char).flatMap (Piece.shown renderImport) = line.ending := by
        simp [List.flatMap_map]
      have something : line.written.text ≠ [] := List.cons_ne_nil _ _
      rw [List.flatMap_cons, ImportLine.text, List.append_assoc,
        scan_append_of_some something (line.written.readImport_append starts _), List.flatMap_cons,
        Piece.shown_construct, line.written.renderImport_declaration, scan_append_loose line.loose,
        List.flatMap_append, ending, later, List.flatMap_cons, ImportLine.replacement]
      simp only [List.append_assoc]
  exact general rfl

/-! ## The quotation marks of a statement -/

/-- A text with one pair of quotation marks, the opening one behind a parenthesis. -/
def QuotesOnce (text : List Char) : Prop :=
  ∃ opening contents behind, Unquoted opening ∧ Unquoted contents ∧ Unquoted behind ∧
    text = opening ++ '(' :: '\'' :: (contents ++ '\'' :: behind)

namespace QuotesOnce

theorem append_left {text : List Char} (quotes : QuotesOnce text) {front : List Char} (quiet : Unquoted front) :
    QuotesOnce (front ++ text) := by
  obtain ⟨opening, contents, behind, quietOpening, quietContents, quietBehind, rfl⟩ := quotes
  exact ⟨front ++ opening, contents, behind, quiet.append quietOpening, quietContents, quietBehind,
    (List.append_assoc _ _ _).symm⟩

theorem append_right {text : List Char} (quotes : QuotesOnce text) {after : List Char} (quiet : Unquoted after) :
    QuotesOnce (text ++ after) := by
  obtain ⟨opening, contents, behind, quietOpening, quietContents, quietBehind, rfl⟩ := quotes
  exact ⟨opening, contents, behind ++ after, quietOpening, quietContents, quietBehind.append quiet, by simp⟩

end QuotesOnce

/-- The name of a module has no quotation marks. -/
theorem ModuleSource.unquoted (source : ModuleSource) : Unquoted source.moduleName :=
  unquoted_of_forall (by decide) (by decide) source.inside

/-- A call of a module quotes the module. -/
theorem ModuleSource.quotesOnce (source : ModuleSource) :
    QuotesOnce ("require('".toList ++ source.moduleName ++ "')".toList) :=
  ⟨"require".toList, source.moduleName, [')'], by decide, source.unquoted, by decide, by simp⟩

theorem BindingName.unquoted (name : BindingName) : Unquoted name.text := .of_name name.isNamePart_of_mem

/-- The binding that an entry asks for has no quotation marks. -/
theorem Specifier.unquoted {specifier : Specifier} {binding : List Char}
    (asked : specifier.binding? = some binding) : Unquoted binding := by
  cases specifier with
  | blank gap => cases asked
  | same before name behind =>
    cases asked
    exact name.unquoted
  | renamed before name beforeAs behindAs newName behind =>
    cases asked
    exact (name.unquoted.append (by decide)).append newName.unquoted

theorem DefaultName.unquoted_binding (name : DefaultName) : Unquoted name.binding :=
  Unquoted.append (by decide) name.unquoted

/-- A statement that takes bindings out of a module quotes what the call of the module does. -/
theorem quotesOnce_takingStatement {bindings : List (List Char)} (quiet : ∀ binding ∈ bindings, Unquoted binding)
    {call : List Char} (quotes : QuotesOnce call) : QuotesOnce (takingStatement bindings call) := by
  cases bindings with
  | nil => exact quotes
  | cons binding others =>
    have comma : Unquoted ", ".toList := by decide
    have joined : Unquoted (", ".toList.intercalate (binding :: others)) := by
      intro c member
      rcases mem_intercalate member with inBetween | ⟨text, known, inside⟩
      · exact comma c inBetween
      · exact quiet text known c inside
    have opening : Unquoted "const \x7b ".toList := by decide
    have closing : Unquoted " \x7d = ".toList := by decide
    exact quotes.append_left ((opening.append joined).append closing)

/-- A statement for an import has one pair of quotation marks. -/
theorem WrittenImport.quotesOnce_statement (written : WrittenImport) : QuotesOnce written.statement := by
  obtain ⟨clause, source⟩ := written
  have call := source.quotesOnce
  have entries (specifiers : List Specifier) :
      ∀ binding ∈ specifiers.filterMap Specifier.binding?, Unquoted binding := by
    intro binding known
    obtain ⟨specifier, -, asked⟩ := List.mem_filterMap.mp known
    exact Specifier.unquoted asked
  have keyword : Unquoted "const ".toList := by decide
  have sign : Unquoted " = ".toList := by decide
  have bound (name : BindingName) :
      QuotesOnce ("const ".toList ++ name.text ++ " = ".toList ++
        ("require('".toList ++ source.moduleName ++ "')".toList)) :=
    call.append_left ((keyword.append name.unquoted).append sign)
  cases clause with
  | default gap name behind =>
    exact quotesOnce_takingStatement (List.forall_mem_singleton.mpr name.unquoted_binding) call
  | others gap bindings =>
    cases bindings with
    | named specifiers behind => exact quotesOnce_takingStatement (entries specifiers) call
    | whole beforeAs behindAs name behind => exact bound name
  | both gap default beforeComma behindComma bindings =>
    cases bindings with
    | named specifiers behind =>
      exact quotesOnce_takingStatement (List.forall_mem_cons.mpr ⟨default.unquoted_binding, entries specifiers⟩) call
    | whole beforeAs behindAs name behind =>
      have comma : Unquoted ", \x7b ".toList := by decide
      have closing : Unquoted " \x7d = ".toList := by decide
      exact (((bound name).append_right comma).append_right default.unquoted_binding
        |>.append_right closing).append_right name.unquoted

/-! ## The second pass -/

/-- What stands behind an import has no quotation marks. -/
theorem ImportLine.unquoted_ending (line : ImportLine) : Unquoted line.ending := by
  intro c member
  rcases line.loose c member with blank | rfl
  · have alone : Blank [c] := List.forall_mem_singleton.mpr blank
    exact Unquoted.of_blank alone c List.mem_cons_self
  · decide

/-- What an import is turned into has one pair of quotation marks, and behind them stands what stood behind the
import. -/
theorem ImportLine.exists_replacement (line : ImportLine) :
    ∃ opening contents tail, Unquoted opening ∧ Unquoted contents ∧ Unquoted tail ∧ line.ending <:+ tail ∧
      line.replacement = opening ++ '(' :: '\'' :: (contents ++ '\'' :: tail) := by
  obtain ⟨opening, contents, behind, quietOpening, quietContents, quietBehind, statement⟩ :=
    line.written.quotesOnce_statement
  have feeds : Unquoted (List.replicate (lineFeeds line.written.text) '\n') := by
    intro c member
    rw [List.eq_of_mem_replicate member]
    decide
  refine ⟨opening, contents, behind ++ (List.replicate (lineFeeds line.written.text) '\n' ++ line.ending),
    quietOpening, quietContents, quietBehind.append (feeds.append line.unquoted_ending), ?_, ?_⟩
  · exact (List.suffix_append _ _).trans (List.suffix_append _ _)
  · rw [replacement, statement]
    simp

/-- The word for an import and white space do not end in a character that is neither. -/
theorem not_suffix_concat {blanks : List Char} (blank : Blank blanks) {c : Char} (noLetter : c ∉ "import".toList)
    (solid : isBlank c = false) (front : List Char) : ¬ "import".toList ++ blanks <:+ front ++ [c] := by
  intro ends
  rcases suffix_append_cons ends with ⟨part, -, same⟩ | nothing
  · have member : c ∈ "import".toList ++ blanks := by rw [same]; simp
    exact (List.mem_append.mp member).elim noLetter (blank.not_mem solid)
  · exact absurd (List.suffix_nil.mp nothing) (List.cons_ne_nil _ _)

/-- Behind a word for an import and white space, no module stands between quotation marks. -/
theorem ne_append_quoted {lines : List ImportLine} (apart : ∀ line ∈ lines.dropLast, line.Breaks)
    {code front blanks name : List Char} {quote : Char} (quiet : Unquoted code) (blank : Blank blanks)
    (quoted : isQuote quote = true) (inside : ∀ c ∈ name, isModuleChar c = true)
    (ends : "import".toList ++ blanks <:+ front) (after : List Char) :
    code ++ lines.flatMap ImportLine.replacement ≠ front ++ quote :: (name ++ quote :: after) := by
  intro parts
  -- The word and the white space stand behind the last quotation mark in front of them.
  have behindMark {others rest : List Char} (ends : "import".toList ++ blanks <:+ others ++ '\'' :: rest) :
      "import".toList ++ blanks <:+ rest := by
    have quietEnd : Unquoted ("import".toList ++ blanks) := unquoted_import.append (.of_blank blank)
    rcases suffix_append_cons ends with ⟨part, -, same⟩ | later
    · have unmarked : isQuote '\'' = false := quietEnd '\'' (by rw [same]; simp)
      cases unmarked
    · exact later
  induction lines generalizing code front with
  | nil =>
    rw [List.flatMap_nil, List.append_nil] at parts
    rw [quiet quote (by rw [parts]; simp)] at quoted
    cases quoted
  | cons line lines ih =>
    obtain ⟨breaks, others⟩ := breaks_of_dropLast apart
    obtain ⟨opening, contents, tail, quietOpening, quietContents, quietTail, ending, replacement⟩ :=
      line.exists_replacement
    have whole : code ++ (line :: lines).flatMap ImportLine.replacement =
        (code ++ (opening ++ ['('])) ++ '\'' :: (contents ++ '\'' ::
          (tail ++ lines.flatMap ImportLine.replacement)) := by simp [replacement]
    rw [whole] at parts
    have quietFront : Unquoted (code ++ (opening ++ ['('])) := quiet.append (quietOpening.append (by decide))
    rcases quote_of_append_cons quietFront quoted parts with ⟨rfl, -, -⟩ | ⟨front, rfl, quotation⟩
    · -- The opening mark stands behind a parenthesis.
      rw [← List.append_assoc] at ends
      exact not_suffix_concat blank (by decide) (by decide) _ ends
    · rcases quote_of_append_cons quietContents quoted quotation with ⟨-, rfl, rest⟩ | ⟨front, rfl, rest⟩
      · -- Behind the closing mark the text up to the next one would have to be the name of the module.
        have noMark : '\'' ∉ tail := fun member => by cases quietTail _ member
        by_cases last : lines = []
        · rw [last, List.flatMap_nil, List.append_nil] at rest
          exact noMark (by rw [← rest]; simp)
        · have inName : tail ⊆ name := (prefix_of_prefix_append_cons noMark ⟨_, rest.symm⟩).subset
          rcases breaks last with feed | carriage
          · exact absurd (inside _ (inName (ending.subset feed))) (by decide)
          · exact absurd (inside _ (inName (ending.subset carriage))) (by decide)
      · exact ih others quietTail (behindMark (behindMark ends)) rest

/-- **The second pass** leaves the statements as they are. -/
theorem replace_readBareImport_importLines {lines : List ImportLine}
    (apart : ∀ line ∈ lines.dropLast, line.Breaks) :
    replace readBareImport (fun _ moduleName => requireCall moduleName)
      (lines.flatMap ImportLine.replacement) = lines.flatMap ImportLine.replacement := by
  refine replace_of_silent _ fun front rest parts => ?_
  cases read : readBareImport front.getLast? rest with
  | none => rfl
  | some found =>
    obtain ⟨-, -, inside, blanks, quote, blank, quoted, same⟩ := exists_of_readBareImport read
    have ends : "import".toList ++ blanks <:+ front ++ ("import".toList ++ blanks) := List.suffix_append _ _
    have nothing : Unquoted [] := List.forall_mem_nil _
    refine absurd ?_ (ne_append_quoted apart nothing blank quoted inside ends found.2)
    rw [List.nil_append, parts, same]
    simp only [List.append_assoc]

/-- **Imports in every layout.** A text of imports that bind names, however they are written, each but the last
with a break of the line behind it, is turned into the statements for the imports, each with a line feed for
every one that its import was written over; what stands between two imports stays. -/
theorem importsAsRequires_importLines {lines : List ImportLine}
    (apart : ∀ line ∈ lines.dropLast, line.Breaks) :
    importsAsRequires (lines.flatMap ImportLine.text) = lines.flatMap ImportLine.replacement := by
  rw [importsAsRequires, replace_readImport_importLines apart, replace_readBareImport_importLines apart]

/-- Four imports: one over three lines whose default export is called like the keyword, one of a whole module
from a module that is called like it, one without bindings, and one of both kinds. -/
theorem importsAsRequires_importLines_of_four :
    let space : WordGap := ⟨⟨[' '], by decide⟩, by decide⟩
    let feed : Gap := ⟨['\n'], by decide⟩
    let none : Gap := ⟨[], List.forall_mem_nil _⟩
    let a : BindingName := ⟨['a'], by decide⟩
    let b : BindingName := ⟨['b'], by decide⟩
    let same : ModuleSource := ⟨none, '\'', "import".toList, by decide, by decide, List.all_eq_true.mp (by decide)⟩
    let m (quote : Char) (quoted : isQuote quote = true) : ModuleSource :=
      ⟨none, quote, ['m'], quoted, by decide, List.all_eq_true.mp (by decide)⟩
    let lines : List ImportLine :=
      [⟨⟨.both space ⟨⟨"import".toList, by decide⟩, by decide, by decide, by decide⟩ none feed
          (.named [.renamed none a space space b none, .blank feed] none), m '"' rfl⟩, ";\n".toList, by decide⟩,
        ⟨⟨.others none (.whole none space a space), same⟩, "\r\n".toList, by decide⟩,
        ⟨⟨.others none (.named [] none), m '\'' rfl⟩, "\n\n".toList, by decide⟩,
        ⟨⟨.both space ⟨b, by decide, by decide, by decide⟩ none none (.whole none space a space), m '\'' rfl⟩, [],
          List.forall_mem_nil _⟩]
    let text := "import import,\n\x7ba as b,\n\x7dfrom\"m\";\nimport*as a from'import'\r\nimport\x7b\x7dfrom'm'\n\n".toList ++
      "import b,*as a from'm'".toList
    let turned := "const \x7b default: import, a: b \x7d = require('m')\n\n;\nconst a = require('import')\r\n".toList ++
      "require('m')\n\nconst a = require('m'), \x7b default: b \x7d = a".toList
    (∀ line ∈ lines.dropLast, line.Breaks) ∧ lines.flatMap ImportLine.text = text ∧
      importsAsRequires text = turned := by
  intro space feed none a b same m lines text turned
  have apart : ∀ line ∈ lines.dropLast, line.Breaks := by decide +kernel
  have written : lines.flatMap ImportLine.text = text := by decide +kernel
  have wanted : lines.flatMap ImportLine.replacement = turned := by decide +kernel
  refine ⟨apart, written, ?_⟩
  rw [← written, ← wanted]
  exact importsAsRequires_importLines apart

end Marginalia.Preparation
