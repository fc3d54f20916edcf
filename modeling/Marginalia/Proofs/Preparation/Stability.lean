import Marginalia.Proofs.Preparation.Attribution
import Marginalia.Proofs.Preparation.Patching

/-! # Preparing again
What the last two stages leave, they leave alone. After tagging and joining, no line goes on with a
call chain (`breakFolds_of_suffix`) and no console call stands on any line, also not across the marker
at which two lines were joined (`lacksCalls_attach`). So a second preparation changes a prepared
document only where its first two stages find something new (`document_again`). They may find
something: the quotes that tagging brings in can close a text that nothing closed before
(`document_not_idempotent`). -/

namespace Marginalia.Preparation

open Text Marker

/-! ## Lines that do not go on -/

/-- Whether a line goes on with a call chain is said by its first character other than a blank, which
stays when text is put in place of the blanks at its end. -/
theorem startsWithDot_trimEndBy_append {line : List Char} (other : line.all isIndent = false)
    (tail : List Char) : startsWithDot (trimEndBy isIndent line ++ tail) = startsWithDot line := by
  induction line with
  | nil => simp at other
  | cons c line ih =>
    rw [trimEndBy_cons other, List.cons_append, startsWithDot_cons, startsWithDot_cons]
    cases blank : isIndent c with
    | false => rfl
    | true =>
      have others : line.all isIndent = false := by simpa [blank] using other
      rw [ih others]

/-- A line that does not go on with a call chain does not either with the lines after it that are
folded into it, if it is not blank. -/
theorem startsWithDot_chainText {line : List Char} {lines : List (List Char)}
    (kept : breakFolds (line :: lines) = false) : startsWithDot (chainText line lines) = false := by
  obtain ⟨noDot, later⟩ := Bool.or_eq_false_iff.mp kept
  rw [chainText]
  cases folded : foldedTail 1 lines with
  | none => exact noDot
  | some tail =>
    have goesOn : breakFolds lines = true := by rw [← isSome_foldedTail 1, folded, Option.isSome_some]
    have other : line.all isIndent = false := by simpa [goesOn] using later
    rw [attach, startsWithDot_trimEndBy_append other]
    exact noDot

/-- No line that is kept goes on with a call chain, also not after blank lines. -/
theorem breakFolds_of_suffix {rest lines : List (List Char)} (ends : rest <:+ keptLines lines) :
    breakFolds rest = false := by
  induction lines generalizing rest with
  | nil => rw [List.suffix_nil.mp ends, breakFolds]
  | cons line lines ih =>
    cases folds : breakFolds (line :: lines) with
    | true =>
      rw [keptLines, if_pos folds] at ends
      exact ih ends
    | false =>
      rw [keptLines, folds, if_neg Bool.false_ne_true] at ends
      rcases List.suffix_cons_iff.mp ends with rfl | later
      · rw [breakFolds, startsWithDot_chainText folds, ih (List.suffix_refl _), Bool.and_false,
          Bool.or_false]
      · exact ih later

/-- A text in which no line goes on with a call chain stays as it is. -/
theorem joinChains_of_unfolded {line : List Char} {lines endings : List (List Char)}
    (cut : Cut (line :: lines) endings) (unfolded : ∀ rest, rest <:+ lines → breakFolds rest = false) :
    joinChains (joinLines (line :: lines) endings) = joinLines (line :: lines) endings := by
  induction lines generalizing line endings with
  | nil =>
    cases cut with
    | feed _ _ rest | both _ rest => exact absurd rfl rest.ne_nil
    | last whole =>
      rw [joinChains_joinLines_of_kept (.last whole) (by simp [joinLines])]
      simp [joinLines]
  | cons next more ih =>
    have after : Cut ([] :: next :: more) endings := cut.suffix List.nil_suffix
    have kept : (readBreaks (joinLines ([] :: next :: more) endings)).2.head? ≠ some '.' :=
      head?_readBreaks_of_kept after (unfolded (next :: more) (List.suffix_refl _))
    obtain ⟨ending, later, rfl, rest, joined⟩ :=
      joinChains_joinLines_nil_of_kept after (List.cons_ne_nil next more) kept
    rw [joinChains_joinLines_of_kept cut kept, joined,
      ih rest fun others behind => unfolded others (behind.trans (List.suffix_cons next more))]
    rfl

/-- **Joining twice.** A joined text has no call chain left to join. -/
theorem joinChains_joinChains (text : List Char) : joinChains (joinChains text) = joinChains text := by
  have cut := cut_splitLines text
  have whole := joinLines_splitLines text
  obtain ⟨line, lines, parts⟩ := List.exists_cons_of_ne_nil (splitLines_ne_nil text)
  rw [parts] at cut whole
  have joined := physicalLines_joinChains cut
  have cutJoined := cut_splitLines (joinChains text)
  have wholeJoined := joinLines_splitLines (joinChains text)
  rw [whole, physicalLines] at joined
  rw [joined] at cutJoined wholeJoined
  have same := joinChains_of_unfolded cutJoined fun rest ends => breakFolds_of_suffix ends
  rwa [wholeJoined] at same

/-! ## Joined calls -/

section Functions

variable {functions : List (List Char)}
  (identifiers : ∀ function ∈ functions, isIdentifier function = true)

/-- From another character than the first letter of a call on, no call stands in the rest of a text
without calls, whatever the text before it is taken to be. -/
theorem LacksCalls.of_suffix {before other : Option Char} {line rest : List Char} {c : Char}
    (lacks : LacksCalls functions before line) (ends : c :: rest <:+ line) (noLetter : c ≠ 'c') :
    LacksCalls functions other (c :: rest) := by
  obtain ⟨start, rfl⟩ := ends
  intro front written after parts call
  cases front with
  | nil =>
    obtain ⟨others, rfl⟩ := call.head
    exact absurd (List.cons.inj parts).1 noLetter
  | cons d front =>
    have blocked := lacks (start ++ d :: front) written after (by rw [parts, List.append_assoc]) call
    rw [List.getLast?_append, List.getLast?_cons, Option.some_or, Option.some_or] at blocked
    rwa [List.getLast?_cons, Option.some_or]

include identifiers in
/-- Text put behind a line with a marker does not make a call, neither in front of the marker nor
across it. -/
theorem LacksCalls.append_lineDelta {before : Option Char} {line tail : List Char}
    (lacks : LacksCalls functions before line) (lacksTail : LacksCalls functions (some '/') tail)
    (breaks : Nat) :
    LacksCalls functions before (trimEndBy isIndent line ++ ' ' :: (lineDelta breaks ++ tail)) := by
  intro front written after parts call
  have noSlash : '/' ∉ written :=
    call.not_mem identifiers (by decide) (by decide) (by decide) (by decide)
  -- Two slashes bound the marker, and none stands within a call.
  obtain ⟨middle, marker⟩ : ∃ middle, lineDelta breaks = '/' :: (middle ++ ['/']) :=
    ⟨"*`".toList ++ (decimal breaks ++ "`*".toList), by simp [lineDelta, deltaOpening, deltaClosing]⟩
  have noLetter : 'c' ∉ middle := by
    intro member
    have held := (isLineDelta_lineDelta breaks).isDeltaChar_of_mem (c := 'c') (by simp [marker, member])
    exact absurd held (by decide)
  rw [marker, List.cons_append, List.append_assoc, List.singleton_append, ← List.singleton_append,
    ← List.append_assoc] at parts
  rcases parts_of_append_cons noSlash parts with ⟨others, inLine⟩ | ⟨place, rfl, behind⟩
  · -- The call ends in a parenthesis, so the blank in front of the marker is behind it.
    have last : written.getLast? = some '(' := call.getLast?
    rcases List.eq_nil_or_concat others with rfl | ⟨others, c, rfl⟩
    · rw [List.append_nil] at inLine
      have ends := congrArg List.getLast? inLine
      rw [List.getLast?_concat, List.getLast?_append, last] at ends
      cases ends
    · rw [List.concat_eq_append, ← List.append_assoc, ← List.append_assoc] at inLine
      obtain ⟨inLine, -⟩ := List.append_inj' inLine rfl
      obtain ⟨rest, whole⟩ := trimEndBy_isPrefix isIndent line
      exact lacks front written (others ++ rest) (by rw [← whole, inLine]; simp) call
  · rcases parts_of_append_cons noSlash behind with ⟨others, inMarker⟩ | ⟨place, rfl, inTail⟩
    · obtain ⟨letters, rfl⟩ := call.head
      exact absurd (by simp [inMarker]) noLetter
    · have blocked := lacksTail place written after inTail call
      simpa [List.getLast?_append, List.getLast?_cons] using blocked

include identifiers in
/-- Lines that are folded into one another make no call together. -/
theorem lacksCalls_attach {before : Option Char} {line : List Char} {lines : List (List Char)}
    (lacks : LacksCalls functions before line)
    (others : ∀ next ∈ lines, LacksCalls functions none next) (breaks : Nat) :
    LacksCalls functions before (attach line (foldedTail breaks lines)) := by
  induction lines generalizing before line breaks with
  | nil => exact lacks
  | cons next lines ih =>
    obtain ⟨lacksNext, later⟩ := List.forall_mem_cons.mp others
    rw [foldedTail]
    split
    · next dot =>
      obtain ⟨link, starts⟩ := List.head?_eq_some_iff.mp (beq_iff_eq.mp dot)
      have ends : '.' :: link <:+ next := starts ▸ List.dropWhile_suffix isIndent
      rw [attach, starts]
      exact lacks.append_lineDelta identifiers
        (ih (lacksNext.of_suffix ends (by decide)) later 1) breaks
    · split
      · exact ih lacks later (breaks + 1)
      · exact lacks

include identifiers in
/-- No call stands on the lines that are kept of lines without calls. -/
theorem lacksCalls_keptLines {lines : List (List Char)}
    (lacks : ∀ line ∈ lines, LacksCalls functions none line) :
    ∀ line ∈ keptLines lines, LacksCalls functions none line := by
  induction lines with
  | nil => exact List.forall_mem_nil _
  | cons line lines ih =>
    obtain ⟨first, others⟩ := List.forall_mem_cons.mp lacks
    rw [keptLines]
    split
    · exact ih others
    · exact List.forall_mem_cons.mpr ⟨lacksCalls_attach identifiers first others 1, ih others⟩

/-- Lines without calls stay as they are. -/
theorem tagLinesFrom_of_lacksCalls {lines : List (List Char)}
    (lacks : ∀ line ∈ lines, LacksCalls functions none line) (number : Nat) :
    tagLinesFrom functions number lines = lines := by
  induction lines generalizing number with
  | nil => rfl
  | cons line lines ih =>
    obtain ⟨first, others⟩ := List.forall_mem_cons.mp lacks
    rw [tagLinesFrom, first.tagLine, ih others]

include identifiers in
/-- Tagged lines hold no calls. -/
theorem lacksCalls_tagLinesFrom (number : Nat) (lines : List (List Char)) :
    ∀ line ∈ tagLinesFrom functions number lines, LacksCalls functions none line := by
  induction lines generalizing number with
  | nil => exact List.forall_mem_nil _
  | cons line lines ih =>
    exact List.forall_mem_cons.mpr ⟨lacksCalls_tagLine identifiers number line, ih (number + 1)⟩

include identifiers in
/-- **Tagging joined calls.** A text that was tagged and joined has no calls left to tag. -/
theorem tagCalls_joinChains_tagCalls (text : List Char) :
    tagCalls functions (joinChains (tagCalls functions text)) =
      joinChains (tagCalls functions text) := by
  have lacks := lacksCalls_tagLinesFrom identifiers 1 (splitLines text).1
  have cut := cut_tagLinesFrom identifiers (cut_splitLines text) 1
  obtain ⟨line, lines, tagged⟩ := List.exists_cons_of_ne_nil cut.ne_nil
  have joined : (splitLines (joinChains (tagCalls functions text))).1 =
      chainText line lines :: keptLines lines := by
    rw [tagged] at cut
    rw [tagCalls, tagged]
    exact physicalLines_joinChains cut
  rw [tagged] at lacks
  obtain ⟨first, others⟩ := List.forall_mem_cons.mp lacks
  have lacksJoined : ∀ line ∈ (splitLines (joinChains (tagCalls functions text))).1,
      LacksCalls functions none line := by
    rw [joined]
    exact List.forall_mem_cons.mpr
      ⟨lacksCalls_attach identifiers first others 1, lacksCalls_keptLines identifiers others⟩
  rw [tagCalls, tagLinesFrom_of_lacksCalls lacksJoined, joinLines_splitLines]

end Functions

end Marginalia.Preparation

namespace Marginalia

open Text Preparation Marker

/-! ## Prepared documents -/

/-- What preparation gives has gone through the last three stages. -/
theorem exists_of_document {setting : Setting} {source prepared : List Char} {records : List Log.Record}
    (done : document setting source = .ok (prepared, records)) :
    ∃ resolved logs, resolveRequires setting.tree setting.context (importsAsRequires source) =
      .ok (resolved, logs) ∧ prepared = joinChains (tagCalls setting.functions resolved) := by
  cases requires : resolveRequires setting.tree setting.context (importsAsRequires source) with
  | error problem =>
    simp only [document, Stage.order, applyStages, Stage.apply, requires, bind, Except.bind] at done
    cases done
  | ok resolved =>
    simp only [document, Stage.order, applyStages, Stage.apply, requires, bind, Except.bind, pure,
      Except.pure] at done
    cases done
    exact ⟨resolved.1, resolved.2, rfl, rfl⟩

/-- A document that every stage leaves as it is is prepared as it stands, and no stage is reported. -/
theorem document_of_fixed {setting : Setting} {text : List Char} {logs : List Log.Record}
    (imports : importsAsRequires text = text)
    (requires : resolveRequires setting.tree setting.context text = .ok (text, logs))
    (calls : tagCalls setting.functions text = text) (chains : joinChains text = text) :
    document setting text = .ok (text, logs) := by
  simp only [document, Stage.order, applyStages, Stage.apply, imports, requires, calls, chains, bind,
    Except.bind, pure, Except.pure, if_pos]
  simp

/-- **Preparing again.** Where the paths of the project and of the document start at the root and have no
parenthesis, a prepared document in which no import is found is prepared already: no stage changes it
again, and none has anything to report. -/
theorem document_again {setting : Setting} {source prepared : List Char} {records : List Log.Record}
    (identifiers : ∀ function ∈ setting.functions, isIdentifier function = true)
    (base : ∀ path ∈ setting.context.base, PlainPath path)
    (file : ∀ path ∈ setting.context.document, PlainPath path)
    (first : document setting source = .ok (prepared, records))
    (imports : importsAsRequires prepared = prepared) : document setting prepared = .ok (prepared, []) := by
  obtain ⟨resolved, logs, requires, rfl⟩ := exists_of_document first
  have pointed := atRest_of_resolveRequires base file requires
  have tagged := pointed.of_patched (patched_tagCalls identifiers resolved) id
  have joined := tagged.of_patched (patched_joinChains _) id
  exact document_of_fixed imports joined.resolveRequires (tagCalls_joinChains_tagCalls identifiers resolved)
    (joinChains_joinChains _)

/-- An import, a module beside the document, a call in a chain over three lines, and a module of the
interpreter. -/
theorem document_again_of_chain :
    let setting : Setting := ⟨⟨[([ "app".toList, "lib.js".toList], .file)], []⟩,
      ⟨some (.ofText "/app".toList), some (.ofText "/app/main.js".toList)⟩, ["log".toList]⟩
    let source := "import fs from 'fs'\nrequire('./lib')\n\n  .map(x => console.log(x))\n".toList
    let prepared := ("const \x7b default: fs \x7d = require('fs')\n" ++
      "require('/app/lib') /*`2`*/.map(x => global['`console`'].log(4, x))\n").toList
    (∃ records, document setting source = .ok (prepared, records)) ∧
      document setting prepared = .ok (prepared, []) := by
  intro setting source prepared
  have first : (document setting source).toOption.map (·.1) = some prepared := by decide +kernel
  obtain ⟨⟨code, records⟩, done, same⟩ := Option.map_eq_some_iff.mp first
  obtain rfl : code = prepared := same
  have done := toOption_eq_some_iff.mp done
  have base : ∀ path ∈ setting.context.base, PlainPath path := by
    rintro path ⟨⟩
    exact plainPath_ofText (by decide) (by decide)
  have file : ∀ path ∈ setting.context.document, PlainPath path := by
    rintro path ⟨⟩
    exact plainPath_ofText (by decide) (by decide)
  exact ⟨⟨records, done⟩, document_again (by decide +kernel) base file done (by decide +kernel)⟩

/-- **Preparing again may change more.** The quote that tagging brings in closes the one in a comment,
and the second preparation takes what stands between them for the name of an imported module. -/
theorem document_not_idempotent :
    let setting : Setting := ⟨⟨[], []⟩, ⟨none, none⟩, ["log".toList]⟩
    let source := "/* import 'em */ console.log(1)".toList
    let once := "/* import 'em */ global['`console`'].log(1, 1)".toList
    let twice := "/* require('em */ global[')`console`'].log(1, 1)".toList
    (document setting source).toOption.map (·.1) = some once ∧
      (document setting once).toOption.map (·.1) = some twice ∧ twice ≠ once := by
  decide +kernel

/-- A path that does not start at the root is looked for again, below the same project. -/
example :
    let files := ["p/node_modules/x", "p/p/node_modules/x"].map fun name => (File.Path.ofText name.toList).names
    let setting : Setting := ⟨⟨files.map (·, .file), []⟩, ⟨some (.ofText "p".toList), none⟩, []⟩
    let once := "require('p/node_modules/x')".toList
    let twice := "require('p/p/node_modules/x')".toList
    (document setting "require('x')".toList).toOption.map (·.1) = some once ∧
      (document setting once).toOption.map (·.1) = some twice := by
  decide +kernel

/-- A path may hold a call, which is read within the call that is pointed at the path. -/
example :
    let base := "/require(\"x\")".toList
    let file := (File.Path.ofText (base ++ "/node_modules/x".toList)).names
    let setting : Setting := ⟨⟨[(file, .file)], []⟩, ⟨some (.ofText base), none⟩, []⟩
    let once := "require('/require(\"x\")/node_modules/x')".toList
    let twice := "require('/require(\"/require(\"x\")/node_modules/x\")/node_modules/x')".toList
    (document setting "require('x')".toList).toOption.map (·.1) = some once ∧
      (document setting once).toOption.map (·.1) = some twice := by
  decide +kernel

end Marginalia
