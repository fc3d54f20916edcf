import Marginalia.Classification
import Marginalia.Proofs.Text.Scanning
import Marginalia.Proofs.Text.Trimming
import Marginalia.Proofs.Text.Words

/-! # The grammar of uncaught errors
The line of a report that names an uncaught error is put together from five parts (`ErrorLine`): an announcement
that may be missing, the name of the error, a code in brackets that may be missing, a colon with one blank
behind it, and the message. The reader accepts exactly these lines (`readUncaught_text`,
`exists_of_readUncaught`), and the parts of a line are determined by its text, because each reading step ends at
a character that its part cannot hold (`ErrorLine.eq_of_text_eq`). -/

namespace Marginalia

open Text

/-! ## Parts of an error line -/

/-- A text that may announce an uncaught error: none, or a word and white space. -/
def IsAnnouncement (text : List Char) : Prop :=
  text = [] ∨ ∃ blanks, blanks ≠ [] ∧ Blank blanks ∧ text = "Uncaught".toList ++ blanks

/-- The name of an error: one of two words, with a text in front of it that is empty or starts and goes on like
a name. -/
def NamesError (name : List Char) : Prop :=
  ∃ front word, (word = "Error".toList ∨ word = "Exception".toList) ∧
    (front = [] ∨ ∃ first others, front = first :: others ∧ isNameStart first = true ∧
      ∀ c ∈ others, isNamePart c = true) ∧
    name = front ++ word

/-- The code of an error: none, or a blank and some characters in brackets. -/
def IsErrorCode (code : List Char) : Prop :=
  code = [] ∨ ∃ blank inner, isBlank blank = true ∧ inner ≠ [] ∧ ']' ∉ inner ∧
    code = blank :: '[' :: (inner ++ [']'])

/-- A line that names an uncaught error. -/
structure ErrorLine where
  /-- What announces the error. -/
  announcement : List Char
  /-- The name of the error. -/
  name : List Char
  /-- The code of the error. -/
  code : List Char
  /-- The blank behind the colon. -/
  gap : Char
  /-- The message of the error. -/
  message : List Char
  /-- The announcement is none or well formed. -/
  announces : IsAnnouncement announcement
  /-- The name is that of an error. -/
  names : NamesError name
  /-- The code is none or well formed. -/
  isCode : IsErrorCode code
  /-- The character behind the colon is a blank. -/
  blank : isBlank gap = true

namespace ErrorLine

/-- The text behind the name. -/
def afterName (line : ErrorLine) : List Char := line.code ++ ':' :: line.gap :: line.message

/-- The text of the line. -/
def text (line : ErrorLine) : List Char := line.announcement ++ (line.name ++ line.afterName)

end ErrorLine

/-- The name of an error is made of characters of names. -/
theorem NamesError.isNamePart_of_mem {name : List Char} (names : NamesError name) :
    ∀ c ∈ name, isNamePart c = true := by
  obtain ⟨front, word, isWord, starts, rfl⟩ := names
  have letters : ∀ c ∈ word, isNamePart c = true := by
    rcases isWord with rfl | rfl <;> exact List.all_eq_true.mp (by decide)
  refine List.forall_mem_append.mpr ⟨?_, letters⟩
  rcases starts with rfl | ⟨first, others, rfl, isFirst, all⟩
  · exact List.forall_mem_nil _
  · exact List.forall_mem_cons.mpr ⟨isNamePart_of_isNameStart isFirst, all⟩

/-- The last letter of an error's name. -/
theorem NamesError.getLast? {name : List Char} (names : NamesError name) :
    name.getLast? = some 'r' ∨ name.getLast? = some 'n' := by
  obtain ⟨front, word, isWord, -, rfl⟩ := names
  rcases isWord with rfl | rfl
  · left
    rw [List.getLast?_append]
    rfl
  · right
    rw [List.getLast?_append]
    rfl

/-- Where the characters of a name are known, a word is the name of an error exactly if it reads as one. -/
theorem isErrorName_iff {name : List Char} (all : ∀ c ∈ name, isNamePart c = true) :
    isErrorName name = true ↔ NamesError name := by
  have front_of {front word : List Char} : (front ++ word).take ((front ++ word).length - word.length) = front := by
    rw [List.length_append, Nat.add_sub_cancel, List.take_left]
  constructor
  · intro accepted
    obtain ⟨word, isWord, reads⟩ := List.any_eq_true.mp accepted
    obtain ⟨parts, starts⟩ := Bool.and_eq_true_iff.mp reads
    refine ⟨name.take (name.length - word.length), word, by simpa [errorWords] using isWord, ?_,
      beq_iff_eq.mp parts⟩
    cases front : name.take (name.length - word.length) with
    | nil => exact .inl rfl
    | cons first others =>
      rw [front] at starts
      refine .inr ⟨first, others, rfl, starts, fun c member => all c ?_⟩
      exact List.mem_of_mem_take (front ▸ List.mem_cons_of_mem first member)
  · rintro ⟨front, word, isWord, starts, rfl⟩
    refine List.any_eq_true.mpr ⟨word, by simpa [errorWords] using isWord, ?_⟩
    rw [front_of, Bool.and_eq_true, beq_self_eq_true]
    refine ⟨rfl, ?_⟩
    rcases starts with rfl | ⟨first, others, rfl, isFirst, -⟩
    · rfl
    · exact isFirst

namespace ErrorLine

/-! ## Reading the parts -/

/-- Behind the name stands a character that no name holds. -/
theorem exists_afterName (line : ErrorLine) :
    ∃ c rest, line.afterName = c :: rest ∧ isNamePart c = false := by
  obtain none | ⟨blank, inner, isBlank, -, -, code⟩ := line.isCode
  · exact ⟨':', line.gap :: line.message, by rw [afterName, none, List.nil_append], by decide⟩
  · refine ⟨blank, '[' :: (inner ++ [']']) ++ ':' :: line.gap :: line.message, ?_, isNamePart_of_isBlank isBlank⟩
    rw [afterName, code, List.cons_append]

/-- The name starts with a character of names. -/
theorem exists_name (line : ErrorLine) : ∃ c rest, line.name = c :: rest ∧ isNamePart c = true := by
  have all := line.names.isNamePart_of_mem
  cases name : line.name with
  | nil =>
    have last := line.names.getLast?
    rw [name] at last
    simp at last
  | cons c rest =>
    rw [name] at all
    exact ⟨c, rest, rfl, all c List.mem_cons_self⟩

/-- The name is read up to its end. -/
theorem spanOf_name (line : ErrorLine) :
    spanOf isNamePart (line.name ++ line.afterName) = (line.name, line.afterName) := by
  obtain ⟨c, rest, after, stop⟩ := line.exists_afterName
  rw [after]
  exact spanOf_append_cons line.names.isNamePart_of_mem stop rest

/-- The announcement is skipped, and nothing but it. -/
theorem skipUncaught_text (line : ErrorLine) : skipUncaught line.text = line.name ++ line.afterName := by
  obtain ⟨first, others, name, part⟩ := line.exists_name
  rcases line.announces with none | ⟨blanks, something, blank, announced⟩
  · -- Without an announcement the word can only be the front of a name, where no white space stands behind it.
    rw [text, none, List.nil_append, skipUncaught]
    cases opened : expect "Uncaught".toList (line.name ++ line.afterName) with
    | none => rfl
    | some after =>
      refine if_neg fun isAnnounced => ?_
      obtain ⟨c, rest, rfl⟩ : ∃ c rest, after = c :: rest := by
        cases after with
        | nil => cases isAnnounced
        | cons c rest => exact ⟨c, rest, rfl⟩
      have stop : isNamePart c = false := isNamePart_of_isBlank isAnnounced
      have span := line.spanOf_name
      rw [expect_eq_some_iff.mp opened, spanOf_append_cons (List.all_eq_true.mp (by decide)) stop] at span
      have last := line.names.getLast?
      obtain ⟨word, -⟩ := Prod.mk.inj span
      rw [← word] at last
      exact absurd last (by decide)
  · obtain ⟨c, rest, parts⟩ := List.exists_cons_of_ne_nil something
    have opened : expect "Uncaught".toList line.text = some (blanks ++ (line.name ++ line.afterName)) := by
      rw [text, announced, List.append_assoc]
      exact expect_eq_some_iff.mpr rfl
    have isFirst : (blanks ++ (line.name ++ line.afterName)).head?.any isBlank = true := by
      rw [parts]
      exact blank c (parts ▸ List.mem_cons_self)
    rw [skipUncaught, opened]
    dsimp only
    rw [if_pos isFirst, name, List.cons_append]
    exact (skipBlanks_eq_cons_iff (isBlank_of_isNamePart part)).mpr ⟨blanks, blank, rfl⟩

/-- The code is read up to its end, and the colon is left. -/
theorem readErrorCode_afterName (line : ErrorLine) :
    readErrorCode line.afterName = (line.code, ':' :: line.gap :: line.message) := by
  rcases line.isCode with none | ⟨blank, inner, isBlank, something, inside, code⟩
  · have colon : Text.isBlank ':' = false := by decide
    rw [afterName, none, List.nil_append, readErrorCode.eq_def]
    split
    · next blank rest same =>
      obtain ⟨rfl, -⟩ := List.cons.inj same
      rw [if_neg (by simp [colon])]
    · rfl
  · obtain ⟨first, others, rfl⟩ := List.exists_cons_of_ne_nil something
    have all : ∀ c ∈ first :: others, (c != ']') = true := by
      intro c member
      exact bne_iff_ne.mpr fun same => inside (same ▸ member)
    have span := spanOf_append_cons all (bne_self_eq_false ']') (':' :: line.gap :: line.message)
    have whole : line.afterName =
        blank :: '[' :: (first :: others ++ ']' :: ':' :: line.gap :: line.message) := by
      rw [afterName, code]
      simp
    rw [whole, readErrorCode, if_pos isBlank, span, code]
    rfl

/-- **Completeness.** A line that names an uncaught error is read as its name with the code, and its message. -/
theorem readUncaught_text (line : ErrorLine) :
    readUncaught line.text = some (line.name ++ line.code, line.message) := by
  have isName := (isErrorName_iff line.names.isNamePart_of_mem).mpr line.names
  simp only [readUncaught, skipUncaught_text, spanOf_name, isName, if_true, readErrorCode_afterName, line.blank]

/-- **Uniqueness.** A text is put together in at most one way. -/
theorem eq_of_text_eq {first second : ErrorLine} (same : first.text = second.text) : first = second := by
  have behind : first.name ++ first.afterName = second.name ++ second.afterName := by
    rw [← skipUncaught_text, ← skipUncaught_text, same]
  have announcement : first.announcement = second.announcement := by
    rw [text, text, behind] at same
    exact List.append_cancel_right same
  have span := congrArg (spanOf isNamePart) behind
  rw [spanOf_name, spanOf_name] at span
  obtain ⟨name, after⟩ := Prod.mk.inj span
  have read := congrArg readErrorCode after
  rw [readErrorCode_afterName, readErrorCode_afterName] at read
  obtain ⟨code, rest⟩ := Prod.mk.inj read
  obtain ⟨gap, message⟩ := List.cons.inj (List.cons.inj rest).2
  cases first
  cases second
  cases announcement
  cases name
  cases code
  cases gap
  cases message
  rfl

end ErrorLine

/-! ## What the reader accepts -/

/-- What is skipped in front of the name of an error is an announcement. -/
theorem exists_skipUncaught (text : List Char) :
    ∃ announcement, IsAnnouncement announcement ∧ text = announcement ++ skipUncaught text := by
  rw [skipUncaught]
  split
  · next after opened =>
    split
    · next isAnnounced =>
      cases after with
      | nil => cases isAnnounced
      | cons c rest =>
        obtain ⟨blanks, blank, parts⟩ := exists_skipBlanks rest
        have isFirst : isBlank c = true := isAnnounced
        refine ⟨"Uncaught".toList ++ c :: blanks, .inr ⟨c :: blanks, List.cons_ne_nil _ _,
          List.forall_mem_cons.mpr ⟨isFirst, blank⟩, rfl⟩, ?_⟩
        rw [skipBlanks, List.dropWhile_cons_of_pos isFirst, ← skipBlanks, List.append_assoc, List.cons_append,
          ← parts]
        exact expect_eq_some_iff.mp opened
    · exact ⟨[], .inl rfl, rfl⟩
  · exact ⟨[], .inl rfl, rfl⟩

/-- What is read as the code of an error is one, or nothing is read. -/
theorem exists_readErrorCode (text : List Char) :
    IsErrorCode (readErrorCode text).1 ∧ text = (readErrorCode text).1 ++ (readErrorCode text).2 := by
  rw [readErrorCode.eq_def]
  split
  · next blank rest =>
    split
    · next isBlank =>
      split
      · next first code after span =>
        have whole := spanOf_append (· != ']') rest
        have inside : (spanOf (· != ']') rest).1.all (· != ']') = true := List.all_takeWhile
        rw [span] at whole inside
        refine ⟨.inr ⟨blank, first :: code, isBlank, List.cons_ne_nil _ _, ?_, rfl⟩, ?_⟩
        · intro member
          exact absurd (List.all_eq_true.mp inside _ member) (by simp)
        · rw [← whole]
          simp
      · exact ⟨.inl rfl, rfl⟩
    · exact ⟨.inl rfl, rfl⟩
  · exact ⟨.inl rfl, rfl⟩

/-- **Soundness.** A text that is read as the report of an error is a line that names one. -/
theorem exists_of_readUncaught {text name message : List Char}
    (read : readUncaught text = some (name, message)) :
    ∃ line : ErrorLine, line.text = text ∧ name = line.name ++ line.code ∧ message = line.message := by
  obtain ⟨announcement, announces, announced⟩ := exists_skipUncaught text
  have whole := spanOf_append isNamePart (skipUncaught text)
  have all : (spanOf isNamePart (skipUncaught text)).1.all isNamePart = true := List.all_takeWhile
  obtain ⟨isCode, coded⟩ := exists_readErrorCode (spanOf isNamePart (skipUncaught text)).2
  rw [readUncaught] at read
  rcases span : spanOf isNamePart (skipUncaught text) with ⟨word, afterName⟩
  rw [span] at read whole all isCode coded
  rcases codeRead : readErrorCode afterName with ⟨code, afterCode⟩
  rw [codeRead] at isCode coded
  dsimp only at read whole all isCode coded
  rw [codeRead] at read
  dsimp only at read
  split at read
  · next isName =>
    split at read
    · next gap rest =>
      split at read
      · next blank =>
        cases read
        have names := (isErrorName_iff (List.all_eq_true.mp all)).mp isName
        refine ⟨⟨announcement, word, code, gap, message, announces, names, isCode, blank⟩, ?_, rfl, rfl⟩
        rw [announced, ← whole, coded]
        rfl
      · cases read
    · cases read
  · cases read

/-! ## Reports -/

/-- The line that counts is the second one behind a heading, and else the first. -/
theorem reportLine_eq (lines : List (List Char)) :
    reportLine lines =
      if 1 < lines.length ∧ trim (lines.getD 0 []) = "Uncaught:".toList then lines.getD 1 [] else lines.getD 0 [] := by
  match lines with
  | [] => rfl
  | [line] => rfl
  | first :: second :: others =>
    have more : 1 < (first :: second :: others).length := Nat.succ_lt_succ (Nat.succ_pos _)
    simp only [reportLine, more, true_and]
    rfl

/-- **The grammar of uncaught errors.** The line that counts in a printed text is the first row of the trimmed
text, or the second where the first is nothing but the heading. The text reports an error exactly if that line
is put together from an announcement that may be missing, the name of an error, a code that may be missing, a
colon, one blank and any message; the parts are then the only ones that make up the line, and the error has the
name with the code, the trimmed message, and the trimmed text as detail. -/
theorem matchUncaught_eq_some_iff (text : List Char) :
    let report := trim text
    let lines := rows report
    let named := if 1 < lines.length ∧ trim (lines.getD 0 []) = "Uncaught:".toList then lines.getD 1 []
      else lines.getD 0 []
    (∀ descriptor, matchUncaught text = some descriptor ↔
      ∃ line : ErrorLine, line.text = named ∧
        descriptor = ⟨String.ofList (line.name ++ line.code), String.ofList (trim line.message),
          String.ofList report⟩) ∧
    ∀ first second : ErrorLine, first.text = named → second.text = named → first = second := by
  intro report lines named
  have counts : reportLine lines = named := reportLine_eq lines
  refine ⟨fun descriptor => ⟨fun matched => ?_, ?_⟩, fun first second isFirst isSecond => ?_⟩
  · obtain ⟨⟨name, message⟩, read, same⟩ := Option.map_eq_some_iff.mp matched
    rw [counts] at read
    obtain ⟨line, isText, rfl, rfl⟩ := exists_of_readUncaught read
    exact ⟨line, isText, same.symm⟩
  · rintro ⟨line, isText, rfl⟩
    have read : readUncaught (reportLine lines) = some (line.name ++ line.code, line.message) := by
      rw [counts, ← isText]
      exact line.readUncaught_text
    exact Option.map_eq_some_iff.mpr ⟨_, read, rfl⟩
  · exact ErrorLine.eq_of_text_eq (isFirst.trans isSecond.symm)

/-- Under a heading the second row counts; the code belongs to the name. -/
example : matchUncaught "Uncaught:\nTypeError [ERR X]: no\n    at x\n".toList =
    some ⟨"TypeError [ERR X]", "no", "Uncaught:\nTypeError [ERR X]: no\n    at x"⟩ := by decide +kernel

end Marginalia
