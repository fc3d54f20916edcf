import Marginalia.LogicalLine
import Marginalia.Proofs.Text.Lines
import Marginalia.Proofs.Text.Scanning

/-! # Line-delta markers
What is read as a line-delta marker (`IsLineDelta`), and how the markers of a text (`deltaDigits`) and their sum
are put together from its parts. A character that no marker holds (`isDeltaChar`) keeps the markers before
it apart from those after it, so a text whose parts meet at such characters has no markers but
theirs. The sum can be told, and the lines of a document numbered, exactly if no marker is too long
(`deltaSum?_eq`, `planLines?_eq`). -/

namespace Marginalia.Marker

open Text

/-! ## Digits -/

/-- The value of an ASCII digit is its distance from zero. -/
theorem digitValue?_of_isDigit {c : Char} (digit : c.isDigit = true) :
    digitValue? c = some (c.toNat - '0'.toNat) := by
  have ascii : c.toNat < 0x80 :=
    Nat.lt_of_le_of_lt (Char.isDigit_iff_toNat.mp digit).2 (by decide)
  rw [digitValue?, if_pos ascii, if_pos digit]

/-- The digits of a number are read as digits. -/
theorem isDecimalDigit_of_mem_decimal {n : Nat} {c : Char} (member : c ∈ decimal n) :
    isDecimalDigit c = true := by
  have digit := Nat.isDigit_of_mem_toDigits (by decide) (by decide) member
  rw [isDecimalDigit, digitValue?_of_isDigit digit]
  rfl

/-- ASCII digits are read as a number the way they are in any program. -/
theorem digitsValue_of_isDigit {digits : List Char} (all : ∀ c ∈ digits, c.isDigit = true) :
    digitsValue digits = Nat.ofDigitChars 10 digits 0 := by
  have fold (value : Nat) :
      digits.foldl (fun value c => 10 * value + (digitValue? c).getD 0) value =
        Nat.ofDigitChars 10 digits value := by
    induction digits generalizing value with
    | nil => rfl
    | cons c digits ih =>
      obtain ⟨digit, others⟩ := List.forall_mem_cons.mp all
      rw [List.foldl_cons, Nat.ofDigitChars_cons, ih others, digitValue?_of_isDigit digit]
      rfl
  exact fold 0

/-- The digits of a number are read as that number. -/
theorem digitsValue_decimal (n : Nat) : digitsValue (decimal n) = n := by
  have all : ∀ c ∈ decimal n, c.isDigit = true :=
    fun c member => Nat.isDigit_of_mem_toDigits (by decide) (by decide) member
  rw [digitsValue_of_isDigit all]
  exact Nat.ofDigitChars_ten_toDigits

/-! ## One marker -/

/-- The texts that are read as a line-delta marker: digits of any script between its two ends. -/
def IsLineDelta (text : List Char) : Prop :=
  ∃ digits, digits ≠ [] ∧ (∀ c ∈ digits, isDecimalDigit c = true) ∧
    text = deltaOpening ++ (digits ++ deltaClosing)

/-- A text in which no marker is found. -/
def LacksLineDeltas (text : List Char) : Prop := ∀ marker, IsLineDelta marker → ¬ marker <:+: text

/-- A character that a marker may hold. -/
def isDeltaChar (c : Char) : Bool := c == '/' || c == '*' || c == '`' || isDecimalDigit c

/-- What the reader of markers reads. -/
theorem readLineDelta_eq_some_iff {before : Option Char} {text digits after : List Char} :
    readLineDelta before text = some (digits, after) ↔
      digits ≠ [] ∧ (∀ c ∈ digits, isDecimalDigit c = true) ∧
        text = deltaOpening ++ (digits ++ (deltaClosing ++ after)) := by
  constructor
  · intro read
    cases opened : expect deltaOpening text with
    | none => simp [readLineDelta, opened] at read
    | some number =>
      simp only [readLineDelta, opened, Option.bind_eq_bind, Option.bind_some, spanOf] at read
      cases empty : (number.takeWhile isDecimalDigit).isEmpty with
      | true => simp [empty] at read
      | false =>
        simp only [empty, Bool.false_eq_true, if_false] at read
        obtain ⟨rest, closed, same⟩ := Option.map_eq_some_iff.mp read
        cases same
        refine ⟨List.isEmpty_eq_false_iff.mp empty, ?_, ?_⟩
        · exact List.all_eq_true.mp List.all_takeWhile
        · rw [← expect_eq_some_iff.mp closed, List.takeWhile_append_dropWhile]
          exact expect_eq_some_iff.mp opened
  · rintro ⟨something, all, parts⟩
    have opened : expect deltaOpening text = some (digits ++ (deltaClosing ++ after)) :=
      expect_eq_some_iff.mpr parts
    have closed : expect deltaClosing (deltaClosing ++ after) = some after := expect_eq_some_iff.mpr rfl
    -- The digits end where the closing text starts, which is no digit.
    have span : spanOf isDecimalDigit (digits ++ (deltaClosing ++ after)) =
        (digits, deltaClosing ++ after) := spanOf_append_cons all (by decide) _
    have nonempty : digits.isEmpty = false := List.isEmpty_eq_false_iff.mpr something
    simp only [readLineDelta, opened, Option.bind_eq_bind, Option.bind_some, span, nonempty, closed,
      Bool.false_eq_true, if_false, Option.map_some]

/-- A marker is read from the front of a text as it was written. -/
theorem readLineDelta_lineDelta_append (before : Option Char) (n : Nat) (after : List Char) :
    readLineDelta before (lineDelta n ++ after) = some (decimal n, after) := by
  refine readLineDelta_eq_some_iff.mpr ⟨Nat.toDigits_ne_nil, ?_, ?_⟩
  · exact fun c member => isDecimalDigit_of_mem_decimal member
  · rw [lineDelta, List.append_assoc, List.append_assoc]

/-- What is written for a number is a marker. -/
theorem isLineDelta_lineDelta (n : Nat) : IsLineDelta (lineDelta n) :=
  ⟨decimal n, Nat.toDigits_ne_nil, fun _ member => isDecimalDigit_of_mem_decimal member, rfl⟩

/-- The last character of a marker. -/
theorem getLast?_lineDelta (n : Nat) : (lineDelta n).getLast? = some '/' := by
  rw [lineDelta, List.getLast?_append, List.getLast?_append]
  rfl

/-- No marker is found in a part of a text in which none is found. -/
theorem LacksLineDeltas.of_infix {text part : List Char} (lacks : LacksLineDeltas text)
    (inside : part <:+: text) : LacksLineDeltas part :=
  fun marker written found => lacks marker written (found.trans inside)

/-- Markers are read from the front of a text. -/
theorem readsFront_readLineDelta : Recogniser.ReadsFront readLineDelta := by
  intro before text digits after read
  obtain ⟨-, -, parts⟩ := readLineDelta_eq_some_iff.mp read
  refine ⟨deltaOpening ++ (digits ++ deltaClosing), List.cons_ne_nil _ _, ?_⟩
  rw [parts, List.append_assoc, List.append_assoc]

/-- Where a marker is read, one stands. -/
theorem isLineDelta_of_read {before : Option Char} {written digits after : List Char}
    (read : readLineDelta before (written ++ after) = some (digits, after)) : IsLineDelta written := by
  obtain ⟨something, all, parts⟩ := readLineDelta_eq_some_iff.mp read
  refine ⟨digits, something, all, ?_⟩
  rw [← List.append_assoc, ← List.append_assoc] at parts
  rw [List.append_cancel_right parts, List.append_assoc]

/-- What a marker says does not depend on the text after it. -/
theorem readLineDelta_append_of_read {before : Option Char} {written digits after : List Char}
    (read : readLineDelta before (written ++ after) = some (digits, after)) (other : List Char) :
    readLineDelta before (written ++ other) = some (digits, other) := by
  obtain ⟨something, all, parts⟩ := readLineDelta_eq_some_iff.mp read
  rw [← List.append_assoc, ← List.append_assoc] at parts
  refine readLineDelta_eq_some_iff.mpr ⟨something, all, ?_⟩
  rw [List.append_cancel_right parts, List.append_assoc, List.append_assoc]

/-- Markers are read alike after every character. -/
theorem readLineDelta_before (before : Option Char) (text : List Char) :
    readLineDelta before text = readLineDelta none text := rfl

/-- A marker holds no other characters than those that markers may hold. -/
theorem IsLineDelta.isDeltaChar_of_mem {marker : List Char} (written : IsLineDelta marker) {c : Char}
    (member : c ∈ marker) : isDeltaChar c = true := by
  obtain ⟨digits, -, all, rfl⟩ := written
  have opening : deltaOpening.all isDeltaChar = true := by decide
  have closing : deltaClosing.all isDeltaChar = true := by decide
  rcases List.mem_append.mp member with member | member
  · exact List.all_eq_true.mp opening c member
  · rcases List.mem_append.mp member with member | member
    · simp [isDeltaChar, all c member]
    · exact List.all_eq_true.mp closing c member

/-- A marker starts with a slash. -/
theorem IsLineDelta.slash_mem {marker : List Char} (written : IsLineDelta marker) : '/' ∈ marker := by
  obtain ⟨digits, -, -, rfl⟩ := written
  exact List.mem_cons_self

/-! ## The markers of a text -/

/-- Where no marker is read, the markers are those of the text after one character. -/
theorem deltaDigits_cons_of_none {c : Char} {rest : List Char}
    (nothing : readLineDelta none (c :: rest) = none) : deltaDigits (c :: rest) = deltaDigits rest := by
  rw [deltaDigits, scan_cons_of_none nothing, scan_before readLineDelta_before]
  rfl

/-- Where a marker is read, it comes before those of the text after it. -/
theorem deltaDigits_of_some {text digits after : List Char}
    (read : readLineDelta none text = some (digits, after)) : deltaDigits text = digits :: deltaDigits after := by
  obtain ⟨written, something, parts⟩ := readsFront_readLineDelta none text digits after read
  rw [parts] at read ⊢
  rw [deltaDigits, scan_append_of_some something read, scan_before readLineDelta_before]
  rfl

/-- A marker at the front of a text is its first one. -/
theorem deltaDigits_lineDelta_append (n : Nat) (after : List Char) :
    deltaDigits (lineDelta n ++ after) = decimal n :: deltaDigits after :=
  deltaDigits_of_some (readLineDelta_lineDelta_append none n after)

/-- A marker at the front of a text adds its number. -/
theorem deltaSum_lineDelta_append (n : Nat) (after : List Char) :
    deltaSum (lineDelta n ++ after) = n + deltaSum after := by
  rw [deltaSum, deltaDigits_lineDelta_append, List.map_cons, total_cons, digitsValue_decimal, ← deltaSum]

/-- A text in which no marker is found has none. -/
theorem LacksLineDeltas.deltaDigits_eq_nil {text : List Char} (lacks : LacksLineDeltas text) :
    deltaDigits text = [] := by
  induction text with
  | nil => exact deltaDigits_nil
  | cons c rest ih =>
    have nothing : readLineDelta none (c :: rest) = none := by
      cases read : readLineDelta none (c :: rest) with
      | none => rfl
      | some found =>
        obtain ⟨written, -, parts⟩ := readsFront_readLineDelta none (c :: rest) found.1 found.2 read
        rw [parts] at read
        have inside : written <:+: c :: rest := parts ▸ List.infix_append_left
        exact absurd inside (lacks written (isLineDelta_of_read read))
    rw [deltaDigits_cons_of_none nothing]
    exact ih fun marker written inside => lacks marker written (List.infix_cons inside)

/-- A text in which no marker is found adds nothing. -/
theorem LacksLineDeltas.deltaSum_eq_zero {text : List Char} (lacks : LacksLineDeltas text) :
    deltaSum text = 0 := by
  rw [deltaSum, lacks.deltaDigits_eq_nil]
  rfl

/-- A marker in front of a character that no marker holds ends before it. -/
theorem IsLineDelta.eq_append_of_append_cons {marker left right after : List Char} {c : Char}
    (written : IsLineDelta marker) (apart : isDeltaChar c = false)
    (parts : left ++ c :: right = marker ++ after) : ∃ others, left = marker ++ others := by
  have absent : c ∉ marker := by
    intro member
    rw [written.isDeltaChar_of_mem member] at apart
    cases apart
  obtain ⟨others, same⟩ := prefix_of_prefix_append_cons absent ⟨after, parts.symm⟩
  exact ⟨others, same.symm⟩

/-- A character that no marker holds keeps the markers before it apart from those after it. -/
theorem deltaDigits_append_cons {c : Char} (apart : isDeltaChar c = false) (left right : List Char) :
    deltaDigits (left ++ c :: right) = deltaDigits left ++ deltaDigits right := by
  -- Nothing is read in front of the whole text that is not read in front of the left part.
  have still {left : List Char} (nothing : readLineDelta none left = none) :
      readLineDelta none (left ++ c :: right) = none := by
    cases read : readLineDelta none (left ++ c :: right) with
    | none => rfl
    | some found =>
      obtain ⟨marker, -, parts⟩ := readsFront_readLineDelta none _ found.1 found.2 read
      rw [parts] at read
      obtain ⟨others, rfl⟩ :=
        (isLineDelta_of_read read).eq_append_of_append_cons apart parts
      rw [readLineDelta_append_of_read read others] at nothing
      cases nothing
  induction (none : Option Char), left using readsFront_readLineDelta.induction with
  | nil before =>
    have nothing : readLineDelta none (c :: right) = none := @still [] rfl
    rw [List.nil_append, deltaDigits_cons_of_none nothing, deltaDigits_nil, List.nil_append]
  | char before d rest nothing ih =>
    have longer : readLineDelta none (d :: (rest ++ c :: right)) = none := still nothing
    rw [List.cons_append, deltaDigits_cons_of_none longer, deltaDigits_cons_of_none nothing, ih]
  | construct before written digits after something read ih =>
    have longer := readLineDelta_append_of_read read (after ++ c :: right)
    rw [List.append_assoc, deltaDigits_of_some longer, deltaDigits_of_some read, ih, List.cons_append]

/-- The markers before and after such a character add up. -/
theorem deltaSum_append_cons {c : Char} (apart : isDeltaChar c = false) (left right : List Char) :
    deltaSum (left ++ c :: right) = deltaSum left + deltaSum right := by
  rw [deltaSum, deltaDigits_append_cons apart, List.map_append, total_append, ← deltaSum, ← deltaSum]

/-- No marker goes over a break, so the markers of a text are those of its lines. -/
theorem deltaDigits_eq_flatMap (text : List Char) : deltaDigits text = (physicalLines text).flatMap deltaDigits := by
  have feed : isDeltaChar '\n' = false := by decide
  have carriage : isDeltaChar '\r' = false := by decide
  have joined {lines endings : List (List Char)} (cut : Cut lines endings) :
      deltaDigits (joinLines lines endings) = lines.flatMap deltaDigits := by
    induction cut with
    | last whole => simp [joinLines]
    | feed whole plain rest ih =>
      rw [joinLines, List.singleton_append, deltaDigits_append_cons feed, ih, List.flatMap_cons]
    | @both line lines endings whole rest ih =>
      have behind :
          deltaDigits ('\n' :: joinLines lines endings) = deltaDigits (joinLines lines endings) := by
        have alone := deltaDigits_append_cons feed [] (joinLines lines endings)
        rwa [List.nil_append, deltaDigits_nil, List.nil_append] at alone
      rw [joinLines, List.cons_append, List.singleton_append, deltaDigits_append_cons carriage, behind, ih,
        List.flatMap_cons]
  rw [physicalLines, ← joined (cut_splitLines text), joinLines_splitLines]

/-- The markers of a text add up to what those of its lines do. -/
theorem deltaSum_eq_total (text : List Char) : deltaSum text = total ((physicalLines text).map deltaSum) := by
  have added (lines : List (List Char)) :
      total ((lines.flatMap deltaDigits).map digitsValue) = total (lines.map deltaSum) := by
    induction lines with
    | nil => rfl
    | cons line lines ih =>
      rw [List.flatMap_cons, List.map_append, total_append, ih, List.map_cons, total_cons, ← deltaSum]
  rw [deltaSum, deltaDigits_eq_flatMap, added]

/-! ## Markers that are too long -/

/-- A numeral for one with so many zeros in front that it is too long to be read. -/
def longOne : List Char := List.replicate digitLimit '0' ++ ['1']

theorem length_longOne : longOne.length = digitLimit + 1 := by simp [longOne]

theorem longOne_ne_nil : longOne ≠ [] := by simp [longOne]

theorem isDecimalDigit_of_mem_longOne {c : Char} (member : c ∈ longOne) : isDecimalDigit c = true := by
  rcases List.mem_append.mp member with zero | one
  · rw [(List.mem_replicate.mp zero).2]
    decide
  · rw [List.mem_singleton.mp one]
    decide

/-- Zeros in front do not change what a numeral says. -/
theorem digitsValue_longOne : digitsValue longOne = 1 := by
  have zeros (count : Nat) : digitsValue (List.replicate count '0' ++ ['1']) = 1 := by
    induction count with
    | zero => rfl
    | succ count ih => exact ih
  exact zeros digitLimit

/-- A marker with that numeral. -/
def longDelta : List Char := deltaOpening ++ (longOne ++ deltaClosing)

theorem deltaDigits_longDelta : deltaDigits longDelta = [longOne] := by
  have read : readLineDelta none longDelta = some (longOne, []) :=
    readLineDelta_eq_some_iff.mpr ⟨longOne_ne_nil, fun _ => isDecimalDigit_of_mem_longOne, by simp [longDelta]⟩
  rw [deltaDigits_of_some read, deltaDigits_nil]

/-- Numerals are read, all of them, exactly if none is too long; otherwise the first that is too long is at
fault. -/
theorem mapM_readNumeral (numerals : List (List Char)) :
    numerals.mapM readNumeral = match numerals.find? (digitLimit < ·.length) with
      | none => .ok (numerals.map digitsValue)
      | some digits => .error (.unreadable digits.length) := by
  induction numerals with
  | nil => rfl
  | cons digits numerals ih =>
    rw [List.mapM_cons, ih]
    by_cases long : digitLimit < digits.length
    · have failed := readNumeral_eq_error_iff.mpr ⟨long, rfl⟩
      rw [failed, List.find?_cons_of_pos (by simpa using long)]
      rfl
    · have read := readNumeral_eq_ok_iff.mpr ⟨Nat.not_lt.mp long, rfl⟩
      rw [read, List.find?_cons_of_neg (by simpa using long)]
      cases numerals.find? (digitLimit < ·.length) <;> rfl

/-- The first marker of a text that is too long, if there is one. -/
def longDelta? (text : List Char) : Option (List Char) := (deltaDigits text).find? (digitLimit < ·.length)

/-- The sum of the markers is told exactly if none is too long; otherwise the first that is too long is at
fault. -/
theorem deltaSum?_eq (text : List Char) :
    deltaSum? text = match longDelta? text with
      | none => .ok (deltaSum text)
      | some digits => .error (.unreadable digits.length) := by
  rw [deltaSum?, mapM_readNumeral, longDelta?]
  cases (deltaDigits text).find? (digitLimit < ·.length) <;> rfl

theorem longDelta?_longDelta : longDelta? longDelta = some longOne := by
  rw [longDelta?, deltaDigits_longDelta, List.find?_cons_of_pos]
  simp [length_longOne]

/-- Lines are numbered exactly if none of their markers is too long. -/
theorem numberLines?_eq (line : Int) (codes : List (List Char)) :
    numberLines? line codes = match (codes.flatMap deltaDigits).find? (digitLimit < ·.length) with
      | none => .ok (numberLines line codes)
      | some digits => .error (.unreadable digits.length) := by
  induction codes generalizing line with
  | nil => rfl
  | cons code codes ih =>
    rw [numberLines?, deltaSum?_eq, List.flatMap_cons, List.find?_append, ← longDelta?]
    cases longDelta? code with
    | some digits => rfl
    | none =>
      rw [Option.none_or]
      show (do let others ← numberLines? (line + 1 + deltaSum code) codes; _) = _
      rw [ih]
      cases (codes.flatMap deltaDigits).find? (digitLimit < ·.length) <;> rfl

/-- A document has a plan exactly if none of its markers is too long; otherwise the first that is too long is at
fault. -/
theorem planLines?_eq (code : List Char) (first : Int) :
    planLines? code first = match longDelta? code with
      | none => .ok (planLines code first)
      | some digits => .error (.unreadable digits.length) := by
  rw [planLines?, numberLines?_eq, ← deltaDigits_eq_flatMap, longDelta?, planLines]

/-- A plan is the one that is made where no marker is too long. -/
theorem planLines_of_planLines? {code : List Char} {first : Int} {lines : List LogicalLine}
    (planned : planLines? code first = .ok lines) : lines = planLines code first := by
  rw [planLines?_eq] at planned
  split at planned
  · exact (Except.ok.inj planned).symm
  · cases planned

end Marginalia.Marker
