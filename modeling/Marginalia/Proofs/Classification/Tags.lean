import Marginalia.Classification
import Marginalia.Host
import Marginalia.Proofs.Preparation.LineDelta
import Marginalia.Proofs.Text.Trimming
import Mathlib.Algebra.Order.Ring.Nat

/-! # Tagged text
A text that the tagging console prints opens with the tag of a line. The quotation mark at the front of the tag
is no white space and no part of a name, so the text says something and reports no error, whatever the message
is; and the one at its end stops the white space that is dropped from the message. What is left is the tag with
the trimmed message, and the tag is read back as its line. -/

namespace Marginalia

open Text Marker

/-! ## Reading a tag -/

/-- The tag of a line, with the marks around it. -/
theorem consoleTag_append (line : Nat) (message : List Char) :
    consoleTag line ++ message = '`' :: '\x7b' :: (decimal line ++ '\x7d' :: '`' :: message) := by
  rw [consoleTag, betweenTagMarks, List.append_assoc, List.append_assoc]
  rfl

/-- A tag is split into the digits of its line and the text behind it. -/
theorem splitConsoleTag_consoleTag_append (line : Nat) (message : List Char) :
    splitConsoleTag (consoleTag line ++ message) = some (decimal line, message) := by
  have opened : expect "`\x7b".toList (consoleTag line ++ message) =
      some (decimal line ++ '\x7d' :: '`' :: message) :=
    expect_eq_some_iff.mpr (consoleTag_append line message)
  have closed : expect "\x7d`".toList ('\x7d' :: '`' :: message) = some message := expect_eq_some_iff.mpr rfl
  have span : spanOf isDecimalDigit (decimal line ++ '\x7d' :: '`' :: message) =
      (decimal line, '\x7d' :: '`' :: message) :=
    spanOf_append_cons (fun _ => isDecimalDigit_of_mem_decimal) (by decide) _
  have something : (decimal line).isEmpty = false := List.isEmpty_eq_false_iff.mpr Nat.toDigits_ne_nil
  simp only [splitConsoleTag, opened, Option.bind_eq_bind, Option.bind_some, span, something, Bool.false_eq_true,
    if_false, closed, Option.map_some]

/-- The digits of a number are read as that number, unless there are too many of them. -/
theorem readNumeral_decimal (number : Nat) :
    readNumeral (decimal number) =
      if (decimal number).length ≤ digitLimit then .ok number else .error (.unreadable (decimal number).length) := by
  rw [readNumeral, digitsValue_decimal]

/-- A tag is read back as its line, unless it is too long, and the text behind it is left. -/
theorem readConsoleTag_consoleTag_append (line : Nat) (message : List Char) :
    readConsoleTag (consoleTag line ++ message) =
      if (decimal line).length ≤ digitLimit then .ok (some (line, message))
      else .error (.unreadable (decimal line).length) := by
  simp only [readConsoleTag, splitConsoleTag_consoleTag_append, readNumeral_decimal]
  split <;> rfl

/-- A tagged text is trimmed as its message is, and the line feed behind it is dropped. -/
theorem trim_consoleTag_append (line : Nat) (message : List Char) :
    trim (consoleTag line ++ (message ++ ['\n'])) = consoleTag line ++ trimEnd message := by
  have solid : ¬ isBlank '`' = true := by decide
  have feed : ∀ c ∈ ['\n'], isBlank c = true := List.forall_mem_singleton.mpr (by decide)
  -- The mark that closes the tag is the last character that is kept for certain.
  have closed (behind : List Char) :
      consoleTag line ++ behind = ('`' :: '\x7b' :: (decimal line ++ ['\x7d'])) ++ '`' :: behind := by
    simp [consoleTag_append]
  have start (behind : List Char) : trimStartBy isBlank (consoleTag line ++ behind) = consoleTag line ++ behind := by
    rw [consoleTag_append]
    exact List.dropWhile_cons_of_neg solid
  rw [trim, trimBy, start, closed, trimEndBy_append_cons (Bool.eq_false_iff.mpr solid),
    trimEndBy_append_dropped feed, ← trimEnd, ← closed]

/-! ## What the mark at the front rules out -/

/-- A text that opens with other characters than a missing value and prompts says something. -/
theorem isNoise_of_trim_eq {c : Char} {text rest : List Char} (starts : trim text = c :: rest) (noWord : c ≠ 'u')
    (noDot : c ≠ '.') : isNoise text = false := by
  simp [isNoise, starts, noWord, noDot]

/-- A row that opens with a mark is no heading, so it is the one that counts. -/
theorem reportLine_marked (row : List Char) (others : List (List Char)) :
    reportLine (('`' :: row) :: others) = '`' :: row := by
  cases others with
  | nil => rfl
  | cons second others =>
    refine if_neg fun heading => ?_
    have solid : ¬ isBlank '`' = true := by decide
    have some : ('`' :: row).all isBlank = false := by simp [Bool.eq_false_iff.mpr solid]
    rw [trim, trimBy, trimStartBy, List.dropWhile_cons_of_neg solid, trimEndBy_cons some] at heading
    exact absurd (List.cons.inj heading).1 (by decide)

/-- A row that opens with a mark names no error. -/
theorem readUncaught_marked (row : List Char) : readUncaught ('`' :: row) = none := by
  have announced : skipUncaught ('`' :: row) = '`' :: row := rfl
  have span : spanOf isNamePart ('`' :: row) = ([], '`' :: row) :=
    spanOf_append_cons (List.forall_mem_nil _) (by decide) row
  have nameless : ¬ isErrorName [] = true := by decide
  simp only [readUncaught, announced, span, if_neg nameless]

/-- A text that opens with a mark reports no error. -/
theorem matchUncaught_of_trim_eq {text rest : List Char} (marked : trim text = '`' :: rest) :
    matchUncaught text = none := by
  obtain ⟨row, others, cut⟩ := exists_rows_cons (c := '`') (by decide) rest
  rw [matchUncaught, marked, cut, reportLine_marked, readUncaught_marked]
  rfl

/-! ## Classification -/

/-- A tagged text is classified as its message, printed by the line of the tag, unless the tag is too long. -/
theorem classifyText_consoleTag_append (current line : Nat) (message : List Char) :
    classifyText current (consoleTag line ++ (message ++ ['\n'])) =
      if (decimal line).length ≤ digitLimit then
        .ok (some (line, .console (String.ofList (trimEnd message))))
      else .error (.unreadable (decimal line).length) := by
  have trimmed := trim_consoleTag_append line message
  have marked := trimmed.trans (consoleTag_append line (trimEnd message))
  rw [classifyText, isNoise_of_trim_eq marked (by decide) (by decide), matchUncaught_of_trim_eq marked, trimmed,
    readConsoleTag_consoleTag_append]
  by_cases short : (decimal line).length ≤ digitLimit
  · rw [if_pos short, if_pos short]
    rfl
  · rw [if_neg short, if_neg short]
    rfl

/-- **Tagged text comes back to its line**, unless the number of the line has too many digits to be read: then it is
not classified at all. Otherwise, whatever is printed behind the tag of a line, and whatever line was
started last: the text is classified as its message without trailing white space, printed by the line of the tag
in the same run, and nothing is reported. A function of the tagging console prints such a text, so what it
prints for a value that stands for the line comes back to the line with the formatted arguments. -/
theorem classify_consoleTag (line current : Nat) (runId : Int) :
    let found (message : List Char) : Except NumeralError (Option Event × List Log.Record) :=
      if (decimal line).length ≤ digitLimit then
        .ok (some ⟨line, .console (String.ofList (trimEnd message)), runId⟩, [])
      else .error (.unreadable (decimal line).length)
    (∀ message : List Char,
      Event.classify? ⟨current, .raw (String.ofList (consoleTag line ++ (message ++ ['\n']))), runId⟩ =
        found message) ∧
    ∀ (host : Host) (value : Script.Value) (arguments : List Script.Value),
      value.asText.toList = decimal line →
      Event.classify? ⟨current, .raw (host.consoleText value arguments), runId⟩ =
        found (Script.Formatter.format ⟨host.setup.depth, host.promises⟩ arguments) := by
  intro found
  have classified (message : List Char) :
      Event.classify? ⟨current, .raw (String.ofList (consoleTag line ++ (message ++ ['\n']))), runId⟩ =
        found message := by
    simp only [Event.classify?, String.toList_ofList, classifyText_consoleTag_append, found]
    by_cases short : (decimal line).length ≤ digitLimit
    · rw [if_pos short, if_pos short]
      rfl
    · rw [if_neg short, if_neg short]
      rfl
  refine ⟨classified, fun host value arguments isLine => ?_⟩
  have tagged := classified (Script.Formatter.format ⟨host.setup.depth, host.promises⟩ arguments)
  rwa [consoleTag, ← isLine] at tagged

/-- What line 3 prints looks like the report of an uncaught error, and comes back to the line while line 7 is
current. -/
theorem classify_consoleTag_of_report :
    let host := Host.start "v20.11.0" ⟨some 2, ["log"]⟩
    let three := Script.Value.number (.finite false 3 0)
    three.asText.toList = decimal 3 ∧
      Event.classify? ⟨7, .raw (host.consoleText three [.text "Uncaught:\nError: no  "]), 1⟩ =
        .ok (some ⟨3, .console "Uncaught:\nError: no", 1⟩, []) := by
  intro host three
  have isLine : three.asText.toList = decimal 3 := by decide +kernel
  have formatted : String.ofList (trimEnd (Script.Formatter.format ⟨host.setup.depth, host.promises⟩
      [.text "Uncaught:\nError: no  "])) = "Uncaught:\nError: no" := by decide +kernel
  obtain ⟨-, printed⟩ := classify_consoleTag 3 7 1
  have told := printed host three [.text "Uncaught:\nError: no  "] isLine
  dsimp only at told
  rw [if_pos (by decide), formatted] at told
  exact ⟨isLine, told⟩

/-- A power of ten has one digit more than its exponent says. -/
theorem length_decimal_pow {exponent : Nat} (positive : 0 < exponent) :
    (decimal (10 ^ exponent)).length = exponent + 1 := by
  have atMost : (decimal (10 ^ exponent)).length ≤ exponent + 1 :=
    (Nat.length_toDigits_le_iff (by decide) (Nat.succ_pos _)).mpr (Nat.pow_lt_pow_succ (by decide))
  have more : ¬ (decimal (10 ^ exponent)).length ≤ exponent := fun short =>
    absurd ((Nat.length_toDigits_le_iff (by decide) positive).mp short) (Nat.lt_irrefl _)
  omega

/-- The first line whose number has too many digits: what it prints is not classified. -/
theorem tagged_text_unclassified :
    Event.classify? ⟨7, .raw (String.ofList (consoleTag (10 ^ digitLimit) ++ "m\n".toList)), 0⟩ =
      .error (.unreadable (digitLimit + 1)) := by
  have long : (decimal (10 ^ digitLimit)).length = digitLimit + 1 := length_decimal_pow (by decide)
  have told := classifyText_consoleTag_append 7 (10 ^ digitLimit) ['m']
  rw [long, if_neg (Nat.not_succ_le_self _)] at told
  rw [Event.classify?]
  simp only [String.toList_ofList]
  rw [show "m\n".toList = ['m'] ++ ['\n'] from rfl, told]
  rfl

end Marginalia
