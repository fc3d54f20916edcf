import Marginalia.Proofs.Classification.Tags
import Marginalia.Proofs.Classification.Uncaught
import Marginalia.Proofs.Host.Reports
import Marginalia.Proofs.Text.Rows

/-! # Reports that are read twice
The interpreter prints an uncaught error behind the word *Uncaught* or under it as a heading. While a line is being
evaluated the host reads such a text itself; what is printed later is read where the output is classified. The two
readers trim other characters, cut lines at other breaks and know other names, but of an error whose name is an
ASCII identifier and whose message is one line with solid ends they read the same name and the same message
(`uncaught_errors_read_alike`). -/

namespace Marginalia

open Text Script

/-! ## Characters of ASCII names -/

/-- A character of an ASCII name is one of names in general. -/
theorem isNamePart_of_isNameChar {c : Char} (part : UncaughtReport.isNameChar c = true) : isNamePart c = true := by
  simp only [UncaughtReport.isNameChar, UncaughtReport.isWordChar, Char.isAlphanum, Bool.or_eq_true,
    beq_iff_eq] at part
  rcases part with ((letter | digit) | rfl) | rfl
  · exact isNamePart_of_isNameStart (by simp [isNameStart, letter])
  · have bounds : 48 ≤ c.toNat ∧ c.toNat ≤ 57 := Char.isDigit_iff_toNat.mp digit
    have ascii : c.toNat < 0x80 := by omega
    simp [isNamePart, isWord, ascii, Char.isAlphanum, digit]
  · decide
  · decide

/-- A letter is no digit. -/
theorem isDigit_of_isAlpha {c : Char} (letter : c.isAlpha = true) : c.isDigit = false := by
  refine Bool.eq_false_iff.mpr fun digit => ?_
  have bounds : 48 ≤ c.toNat ∧ c.toNat ≤ 57 := Char.isDigit_iff_toNat.mp digit
  -- All letters come behind the digits.
  rcases Bool.or_eq_true_iff.mp letter with upper | lower
  · have behind : 65 ≤ c.toNat := (of_decide_eq_true upper).1
    omega
  · have behind : 97 ≤ c.toNat := of_decide_eq_true (Bool.and_eq_true_iff.mp lower).1
    omega

/-- What may start a name may go on in an ASCII name, and is no digit. -/
theorem isNameChar_of_isNameStart {c : Char} (start : isNameStart c = true) :
    UncaughtReport.isNameChar c = true ∧ c.isDigit = false := by
  simp only [isNameStart, Bool.or_eq_true, beq_iff_eq] at start
  rcases start with (letter | rfl) | rfl
  · refine ⟨?_, isDigit_of_isAlpha letter⟩
    simp [UncaughtReport.isNameChar, UncaughtReport.isWordChar, Char.isAlphanum, letter]
  · decide
  · decide

/-! ## Printed errors -/

/-- An uncaught error with the lines of its stack, whose name and message both readers can tell apart. -/
structure UncaughtError where
  /-- The name of the error. -/
  name : List Char
  /-- The message of the error. -/
  message : List Char
  /-- The lines behind the message. -/
  stack : List (List Char)
  /-- The name is an identifier of ASCII characters. -/
  identifier : ∃ first others, name = first :: others ∧ isNameStart first = true ∧
    ∀ c ∈ others, UncaughtReport.isNameChar c = true
  /-- The name ends in one of the words for errors. -/
  ends : ∃ word ∈ errorWords, word <:+ name
  /-- There is a message. -/
  something : message ≠ []
  /-- The message is one line, whichever breaks of lines are known. -/
  unbroken : Unbroken message
  /-- The message starts with no white space of either reader. -/
  solidStart : ∀ c ∈ message.head?, isBlank c = false ∧ isScriptBlank c = false
  /-- The message ends with no white space of either reader. -/
  solidEnd : ∀ c ∈ message.getLast?, isBlank c = false ∧ isScriptBlank c = false

namespace UncaughtError

/-- The name and the message on one line. -/
def line (error : UncaughtError) : List Char := error.name ++ ':' :: ' ' :: error.message

/-- The lines behind the message, each on its own line. -/
def trace (error : UncaughtError) : List Char := error.stack.flatMap fun line => '\n' :: line

/-- What stands in front of a printed error: a word on the same line, or a heading. -/
def openings : List (List Char) := ["Uncaught ".toList, "Uncaught:\n".toList]

/-- The error as it is printed behind an opening. -/
def printed (error : UncaughtError) (opening : List Char) : List Char := opening ++ (error.line ++ error.trace)

theorem head?_of_mem_openings {opening : List Char} (known : opening ∈ openings) : opening.head? = some 'U' := by
  revert opening
  decide

theorem mem_openings {opening : List Char} :
    opening ∈ openings ↔ opening = "Uncaught ".toList ∨ opening = "Uncaught:\n".toList := by
  simp [openings]

/-! ## What both readers find -/

variable (error : UncaughtError)

/-- The first character of the name, and that all are characters of ASCII names. -/
theorem exists_name : ∃ first others, error.name = first :: others ∧ isNameStart first = true ∧
    ∀ c ∈ error.name, UncaughtReport.isNameChar c = true := by
  obtain ⟨first, others, name, start, all⟩ := error.identifier
  refine ⟨first, others, name, start, ?_⟩
  rw [name]
  exact List.forall_mem_cons.mpr ⟨(isNameChar_of_isNameStart start).1, all⟩

/-- The name is that of an error. -/
theorem namesError : NamesError error.name := by
  obtain ⟨word, isWord, front, parts⟩ := error.ends
  obtain ⟨first, others, name, start, all⟩ := error.identifier
  refine ⟨front, word, by simpa [errorWords] using isWord, ?_, parts.symm⟩
  cases front with
  | nil => exact .inl rfl
  | cons c front =>
    rw [name, List.cons_append] at parts
    obtain ⟨rfl, rest⟩ := List.cons.inj parts
    refine .inr ⟨c, front, rfl, start, fun d member => isNamePart_of_isNameChar (all d ?_)⟩
    exact rest ▸ List.mem_append_left word member

/-- The line starts with the first character of the name, which is no white space. -/
theorem exists_line : ∃ first rest, error.line = first :: rest ∧ isNamePart first = true := by
  obtain ⟨first, others, name, start, -⟩ := error.exists_name
  exact ⟨first, others ++ ':' :: ' ' :: error.message, by rw [line, name]; rfl, isNamePart_of_isNameStart start⟩

/-- The line ends as the message does. -/
theorem getLast?_line : error.line.getLast? = error.message.getLast? := by
  obtain ⟨c, others, message⟩ := List.exists_cons_of_ne_nil error.something
  rw [line, message, List.getLast?_append, List.getLast?_cons_cons, List.getLast?_cons_cons]
  rfl

/-- The line is one line, whichever breaks of lines are known. -/
theorem unbroken_line : Unbroken error.line := by
  refine List.forall_mem_append.mpr ⟨fun c member => ?_, ?_⟩
  · obtain ⟨-, -, -, -, all⟩ := error.exists_name
    refine Bool.eq_false_iff.mpr fun breaks => ?_
    have solid := isBlank_of_isNamePart (isNamePart_of_isNameChar (all c member))
    rw [isBlank_of_isRowBreak breaks] at solid
    cases solid
  · exact List.forall_mem_cons.mpr ⟨by decide, List.forall_mem_cons.mpr ⟨by decide, error.unbroken⟩⟩

/-- Behind the line stands nothing, or the line ends. -/
theorem trace_cases (drops : Char → Bool) :
    trimEndBy drops error.trace = [] ∨ ∃ rest, trimEndBy drops error.trace = '\n' :: rest := by
  have front := trimEndBy_isPrefix drops error.trace
  rw [trace] at front ⊢
  cases stack : error.stack with
  | nil => exact .inl rfl
  | cons first others =>
    rw [stack, List.flatMap_cons, List.cons_append, List.prefix_cons_iff] at front
    exact front.imp id fun ⟨rest, parts, _⟩ => ⟨rest, parts⟩

/-- A reader that trims neither the word in front nor the end of the message drops only what stands behind. -/
theorem trimBy_opened {drops : Char → Bool} {opening : List Char} (opens : opening.head? = some 'U')
    (solid : drops 'U' = false) (ends : ∀ c ∈ error.message.getLast?, drops c = false) (behind : List Char) :
    trimBy drops (opening ++ (error.line ++ behind)) = opening ++ (error.line ++ trimEndBy drops behind) := by
  obtain ⟨first, rest, starts, -⟩ := error.exists_line
  have something : opening ++ error.line ≠ [] := by
    rw [starts]
    exact List.append_ne_nil_of_right_ne_nil _ (List.cons_ne_nil _ _)
  have head : (opening ++ error.line).head? = some 'U' := by rw [List.head?_append, opens, Option.some_or]
  have last : (opening ++ error.line).getLast? = error.message.getLast? := by
    rw [List.getLast?_append, ← error.getLast?_line, starts, List.getLast?_cons, Option.some_or]
  have trimmed := trimBy_append something (by simpa [head] using solid) (by rwa [last]) behind
  rwa [List.append_assoc, List.append_assoc] at trimmed

/-! ## The reader in the host -/

/-- The name and the message are read off the line. -/
theorem nameAndMessage?_line : UncaughtReport.nameAndMessage? error.line = some (error.name, error.message) := by
  obtain ⟨first, others, name, start, all⟩ := error.exists_name
  have span : spanOf UncaughtReport.isNameChar error.line = (error.name, ':' :: ' ' :: error.message) :=
    spanOf_append_cons all (by decide) _
  have noDigit : error.name.head?.any (fun c => !c.isDigit) = true := by
    rw [name]
    simp [(isNameChar_of_isNameStart start).2]
  simp only [UncaughtReport.nameAndMessage?, span, noDigit, if_true]
  rfl

/-- The line is the first physical line of what is left of a report. -/
theorem head_physicalLines {tail : List Char} (ends : tail = [] ∨ ∃ rest, tail = '\n' :: rest) :
    (physicalLines (error.line ++ tail)).headD [] = error.line := by
  have whole := error.unbroken_line.not_mem
  have plain : error.line.getLast? ≠ some '\r' := by
    intro last
    exact absurd (error.unbroken_line _ (List.mem_of_getLast? last)) (by decide)
  rcases ends with rfl | ⟨rest, rfl⟩
  · rw [List.append_nil, physicalLines, splitLines_of_not_mem whole]
    rfl
  · rw [physicalLines, splitLines_append_feed whole plain]
    rfl

/-- The host takes off the word in front, with the blank or the break behind it. -/
theorem body_opened {opening : List Char} (known : opening ∈ openings) (tail : List Char) :
    UncaughtReport.body (opening ++ (error.line ++ tail)) = error.line ++ tail := by
  rcases mem_openings.mp known with rfl | rfl
  · have opened : expect UncaughtReport.word ("Uncaught ".toList ++ (error.line ++ tail)) =
        some (' ' :: (error.line ++ tail)) := expect_eq_some_iff.mpr rfl
    obtain ⟨first, rest, starts, part⟩ := error.exists_line
    have noIndent : ¬ isIndent first = true := by
      intro indent
      rw [isNamePart_of_isBlank (isBlank_of_isIndent indent)] at part
      cases part
    have kept : (error.line ++ tail).dropWhile isIndent = error.line ++ tail := by
      rw [starts]
      exact List.dropWhile_cons_of_neg noIndent
    rw [UncaughtReport.body, opened]
    exact kept
  · have opened : expect UncaughtReport.word ("Uncaught:\n".toList ++ (error.line ++ tail)) =
        some (':' :: '\n' :: (error.line ++ tail)) := expect_eq_some_iff.mpr rfl
    rw [UncaughtReport.body, opened]
    rfl

/-- **The host's reading.** The host reads the name, the message, and the report without its opening. -/
theorem describe_printed {opening : List Char} (known : opening ∈ openings) :
    UncaughtReport.describe (error.printed opening) = ⟨String.ofList error.name, String.ofList error.message,
      String.ofList (error.line ++ trimEndBy isScriptBlank error.trace)⟩ := by
  have trimmed : trimBy isScriptBlank (error.printed opening) = _ :=
    error.trimBy_opened (head?_of_mem_openings known) (by decide) (fun c last => (error.solidEnd c last).2) error.trace
  simp only [UncaughtReport.describe, trimmed, error.body_opened known,
    error.head_physicalLines (error.trace_cases isScriptBlank), nameAndMessage?_line]

/-- The host takes what is printed for a report. -/
theorem opens_printed {opening : List Char} (known : opening ∈ openings) :
    UncaughtReport.opens (error.printed opening) = true := by
  rcases mem_openings.mp known with rfl | rfl <;> rfl

/-! ## The reader of the output -/

/-- The line behind an announcement is one that names an error. -/
def errorLine (announcement : List Char) (announces : IsAnnouncement announcement) : ErrorLine where
  announcement := announcement
  name := error.name
  code := []
  gap := ' '
  message := error.message
  announces := announces
  names := error.namesError
  isCode := .inl rfl
  blank := by decide

/-- A line within which no row ends is the first row of a text that goes on with a line feed, if at all. -/
theorem exists_rows_tail {row tail : List Char} (unbroken : Unbroken row) (something : row ≠ [])
    (ends : tail = [] ∨ ∃ rest, tail = '\n' :: rest) : ∃ others, rows (row ++ tail) = row :: others := by
  rcases ends with rfl | ⟨rest, rfl⟩
  · exact ⟨[], by rw [List.append_nil, rows_of_unbroken unbroken something]⟩
  · exact ⟨rows rest, rows_append_feed unbroken rest⟩

/-- The line that counts is the one with the name, behind the word or under it. -/
theorem exists_errorLine {opening : List Char} (known : opening ∈ openings) :
    ∃ announcement announces,
      reportLine (rows (trim (error.printed opening))) = (error.errorLine announcement announces).text := by
  have tail := error.trace_cases isBlank
  have ends : ∀ c ∈ error.message.getLast?, isBlank c = false := fun c last => (error.solidEnd c last).1
  have trimmed : trim (error.printed opening) = _ :=
    error.trimBy_opened (head?_of_mem_openings known) (by decide) ends error.trace
  rw [trimmed]
  rcases mem_openings.mp known with rfl | rfl
  · refine ⟨"Uncaught ".toList, .inr ⟨[' '], by decide, by decide, rfl⟩, ?_⟩
    have word : Unbroken "Uncaught ".toList := by decide
    have unbroken : Unbroken ("Uncaught ".toList ++ error.line) :=
      List.forall_mem_append.mpr ⟨word, error.unbroken_line⟩
    obtain ⟨others, cut⟩ := exists_rows_tail unbroken (List.cons_ne_nil _ _) tail
    have alone : trim ("Uncaught ".toList ++ error.line) = "Uncaught ".toList ++ error.line := by
      have same : trim ("Uncaught ".toList ++ (error.line ++ [])) = _ := error.trimBy_opened rfl (by decide) ends []
      rwa [List.append_nil, trimEndBy_nil, List.append_nil] at same
    rw [← List.append_assoc, cut]
    cases others with
    | nil => rfl
    | cons second others =>
      -- Behind the word stands a blank and not a colon, so the first row is no heading.
      refine (if_neg fun heading => ?_).trans rfl
      rw [alone] at heading
      exact absurd heading (by simp)
  · refine ⟨[], .inl rfl, ?_⟩
    obtain ⟨first, rest, starts, -⟩ := error.exists_line
    obtain ⟨others, cut⟩ := exists_rows_tail error.unbroken_line (starts ▸ List.cons_ne_nil _ _) tail
    have heading : "Uncaught:\n".toList ++ (error.line ++ trimEndBy isBlank error.trace) =
        "Uncaught:".toList ++ '\n' :: (error.line ++ trimEndBy isBlank error.trace) := rfl
    have word : Unbroken "Uncaught:".toList := by decide
    have isHeading : trim "Uncaught:".toList = "Uncaught:".toList := by decide
    rw [heading, rows_append_feed word, cut, reportLine, if_pos isHeading]
    rfl

/-- **The reading of the output.** The output is read as an error of the name and the message, with the trimmed
report as detail. -/
theorem matchUncaught_printed {opening : List Char} (known : opening ∈ openings) :
    matchUncaught (error.printed opening) = some ⟨String.ofList error.name, String.ofList error.message,
      String.ofList (trim (error.printed opening))⟩ := by
  obtain ⟨announcement, announces, counts⟩ := error.exists_errorLine known
  have trimmed : trim error.message = error.message := by
    have same := trimBy_append error.something (fun c first => (error.solidStart c first).1)
      (fun c last => (error.solidEnd c last).1) []
    rwa [List.append_nil, trimEndBy_nil, List.append_nil] at same
  have name : (error.errorLine announcement announces).name ++ (error.errorLine announcement announces).code =
      error.name := List.append_nil _
  have message : (error.errorLine announcement announces).message = error.message := rfl
  rw [matchUncaught, counts, ErrorLine.readUncaught_text, name, message, Option.map_some]
  dsimp only
  rw [trimmed]

/-- What is printed is classified as an error on the line that was current, and nothing is reported. -/
theorem classify_printed {opening : List Char} (known : opening ∈ openings) (line : Nat) (runId : Int) :
    Event.classify? ⟨line, .raw (String.ofList (error.printed opening)), runId⟩ =
      .ok (some ⟨line, .error ⟨String.ofList error.name, String.ofList error.message,
        String.ofList (trim (error.printed opening))⟩, runId⟩, []) := by
  obtain ⟨others, opens⟩ := List.head?_eq_some_iff.mp (head?_of_mem_openings known)
  have trimmed : trim (error.printed opening) = _ :=
    error.trimBy_opened (head?_of_mem_openings known) (by decide) (fun c last => (error.solidEnd c last).1) error.trace
  have starts : trim (error.printed opening) = 'U' :: (others ++ (error.line ++ trimEndBy isBlank error.trace)) :=
    trimmed.trans (by rw [opens]; rfl)
  have something : isNoise (error.printed opening) = false := isNoise_of_trim_eq starts (by decide) (by decide)
  simp only [Event.classify?, String.toList_ofList, classifyText, something, Bool.false_eq_true, if_false,
    error.matchUncaught_printed known]
  rfl

end UncaughtError

/-! ## What arrives -/

/-- While an evaluation is being asked for and is not over, the host sends a printed report as an error; at any
other time it sends it as it is. -/
theorem Host.sent_takePrinted_of_opens (host : Host) {text : String}
    (opens : UncaughtReport.opens text.toList = true) :
    (host.takePrinted text).sent = host.sent ++
      [if host.asking = true ∧ host.settler.isSome = true then
          .error host.currentLine (UncaughtReport.describe text.toList)
        else .output host.currentLine text] := by
  rw [takePrinted]
  cases settler : host.settler with
  | none => rw [if_neg (by simp)]; rfl
  | some number =>
    cases asking : host.asking with
    | false => simp [sendOutput]
    | true => simp [opens, sent_settle]

/-- **Errors are read alike.** Of an uncaught error, printed behind the word or under the heading and with any lines
of a stack, the host reads the name and the message, and so does the classification of the output. So what arrives
of the printed text is an error of this name and message on the current line: sent as an error while an evaluation
is being asked for and is not over, and as output that is classified as one at any other time. -/
theorem uncaught_errors_read_alike (error : UncaughtError) {opening : List Char}
    (known : opening ∈ UncaughtError.openings) :
    let text := error.printed opening
    let name := String.ofList error.name
    let message := String.ofList error.message
    ((UncaughtReport.describe text).name = name ∧ (UncaughtReport.describe text).message = message) ∧
      (∃ detail, matchUncaught text = some ⟨name, message, detail⟩) ∧
      ∀ (host : Host) (line : Nat) (runId : Int), host.currentLine = some (.int line) →
        ∃ sent event detail, (host.takePrinted (String.ofList text)).sent = host.sent ++ [sent] ∧
          (sent.type? = some .error ↔ host.asking = true ∧ host.settler.isSome = true) ∧
          sent.toEvent runId = .ok (some event) ∧
          event.classify? = .ok (some ⟨line, .error ⟨name, message, detail⟩, runId⟩, []) := by
  intro text name message
  have described := error.describe_printed known
  refine ⟨⟨congrArg ErrorDescriptor.name described, congrArg ErrorDescriptor.message described⟩,
    ⟨_, error.matchUncaught_printed known⟩, fun host line runId current => ?_⟩
  have opens : UncaughtReport.opens (String.ofList text).toList = true := by
    rw [String.toList_ofList]
    exact error.opens_printed known
  have sent := host.sent_takePrinted_of_opens opens
  rw [current, String.toList_ofList, described] at sent
  by_cases settles : host.asking = true ∧ host.settler.isSome = true
  · rw [if_pos settles] at sent
    obtain ⟨first, others, parts, -⟩ := error.exists_name
    have told (detail : String) : HostReport.named ⟨name, message, detail⟩ = ⟨name, message, detail⟩ :=
      if_neg (by simp [name, parts])
    refine ⟨_, _, String.ofList (error.line ++ trimEndBy isScriptBlank error.trace), sent,
      iff_of_true (Message.type?_error ..) settles,
      HostReport.toEvent_message (.error line ⟨name, message, _⟩) runId, ?_⟩
    rw [told]
    rfl
  · rw [if_neg settles] at sent
    refine ⟨_, _, String.ofList (trim text), sent, iff_of_false (by simp) settles,
      HostReport.toEvent_message (.output line _) runId, ?_⟩
    exact error.classify_printed known line runId

/-- An error that is called like the word in front of it, with marks of names and codes in its message, under the
heading and with two lines of a stack, the second of them empty. -/
theorem uncaught_errors_read_alike_under_heading :
    let error : UncaughtError :=
      { name := "UncaughtError".toList
        message := "a [b]: (c): d".toList
        stack := ["    at f (x.js:1:2)".toList, []]
        identifier := ⟨'U', "ncaughtError".toList, rfl, by decide, List.all_eq_true.mp (by decide)⟩
        ends := ⟨"Error".toList, by decide, by decide⟩
        something := by decide
        unbroken := by decide
        solidStart := by rintro c ⟨⟩; decide
        solidEnd := by rintro c ⟨⟩; decide }
    let text := "Uncaught:\nUncaughtError: a [b]: (c): d\n    at f (x.js:1:2)\n".toList
    "Uncaught:\n".toList ∈ UncaughtError.openings ∧ error.printed "Uncaught:\n".toList = text ∧
      (UncaughtReport.describe text).name = "UncaughtError" ∧
      (UncaughtReport.describe text).message = "a [b]: (c): d" ∧
      ∃ detail, matchUncaught text = some ⟨"UncaughtError", "a [b]: (c): d", detail⟩ := by
  intro error text
  have known : "Uncaught:\n".toList ∈ UncaughtError.openings := by decide
  have printed : error.printed "Uncaught:\n".toList = text := by decide
  obtain ⟨⟨name, message⟩, matched, -⟩ := uncaught_errors_read_alike error known
  rw [printed] at name message matched
  exact ⟨known, printed, name, message, matched⟩

end Marginalia
