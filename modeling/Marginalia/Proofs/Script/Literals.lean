import Marginalia.Preparation.RequireCall
import Marginalia.Proofs.Json.Quoting

/-! # String literals of scripts
A string literal is read as its value, in UTF-16 units, and the text behind its closing quote (`readString`): a
backslash starts an escape, a break of the line within it joins two lines, and a bare line feed or carriage return
ends the reading. Doubling the backslashes of a text, and nothing else, makes a literal for it exactly if it holds
neither the quote nor one of these two (`readLiteral_escapeBackslashes_iff`); quoted as on the wire, every text is a
literal for itself (`readString_renderText`). -/

namespace Marginalia.Script

open Text Json Preparation

/-! ## Escapes -/

/-- The UTF-16 units of a code point; half of a surrogate pair stands alone. -/
def unitsOfPoint (point : Nat) : List Nat :=
  if 0xD800 ≤ point ∧ point < 0xE000 then [point] else unitsOf (Char.ofNat point)

/-- Every character has units. -/
theorem unitsOf_ne_nil (c : Char) : unitsOf c ≠ [] := by
  unfold unitsOf
  split <;> exact List.cons_ne_nil _ _

/-- A character at which a line of a script ends. -/
def endsLine (c : Char) : Bool := c == '\n' || c == '\r' || c.toNat == 0x2028 || c.toNat == 0x2029

/-- The value of some digits, in a base. -/
def valueInBase (base : Nat) (digits : List Nat) : Nat := digits.foldl (fun value digit => base * value + digit) 0

/-- Read what stands behind `\x`: two hexadecimal digits. -/
def readByte : List Char → Option (List Nat × List Char)
  | a :: b :: rest => do
    let high ← hexValue? a
    let low ← hexValue? b
    return ([16 * high + low], rest)
  | _ => none

/-- Read what stands behind `\u`: four hexadecimal digits, or the digits of a code point in braces. -/
def readPoint : List Char → Option (List Nat × List Char)
  | '{' :: rest =>
    match spanOf (fun c => (hexValue? c).isSome) rest with
    | (first :: others, '}' :: after) =>
      let point := valueInBase 16 ((first :: others).filterMap hexValue?)
      if point < 0x110000 then some (unitsOfPoint point, after) else none
    | _ => none
  | a :: b :: c :: d :: rest => do
    let unit ← hexValue4? a b c d
    return ([unit], rest)
  | _ => none

/-- A digit of the octal system. -/
def isOctalDigit (c : Char) : Bool := '0' ≤ c && c ≤ '7'

/-- Read an octal digit and those behind it, as long as the value is below 256. -/
def readOctal (first : Char) (rest : List Char) : List Nat × List Char :=
  let more := (rest.takeWhile isOctalDigit).take (if first ≤ '3' then 2 else 1)
  ([valueInBase 8 ((first :: more).map fun c => c.toNat - '0'.toNat)], rest.drop more.length)

/-- The character that a single character behind a backslash stands for. -/
def escapedChar (c : Char) : Char :=
  match c with
  | 'b' => Char.ofNat 0x8
  | 't' => '\t'
  | 'n' => '\n'
  | 'v' => Char.ofNat 0xB
  | 'f' => Char.ofNat 0xC
  | 'r' => '\r'
  | other => other

/-- Read what stands behind a backslash. -/
def readEscape : List Char → Option (List Nat × List Char)
  | [] => none
  | '\r' :: '\n' :: rest => some ([], rest)
  | c :: rest =>
    if endsLine c then some ([], rest)
    else if c = 'x' then readByte rest
    else if c = 'u' then readPoint rest
    else if isOctalDigit c then some (readOctal c rest)
    else some (unitsOf (escapedChar c), rest)

section Behind

variable {text after : List Char} {units : List Nat}

theorem isSuffix_of_readByte (read : readByte text = some (units, after)) : after <:+ text := by
  rw [readByte.eq_def] at read
  split at read
  · next a b rest =>
    obtain ⟨high, -, read⟩ := Option.bind_eq_some_iff.mp read
    obtain ⟨low, -, read⟩ := Option.bind_eq_some_iff.mp read
    cases read
    exact List.suffix_append [a, b] _
  · cases read

theorem isSuffix_of_readPoint (read : readPoint text = some (units, after)) : after <:+ text := by
  rw [readPoint.eq_def] at read
  split at read
  · next rest =>
    split at read
    · next first others behind span =>
      dsimp only at read
      split at read
      · cases read
        have whole := spanOf_append (fun c => (hexValue? c).isSome) rest
        rw [span] at whole
        rw [← whole]
        exact ⟨'{' :: ((first :: others) ++ ['}']), by simp⟩
      · cases read
    · cases read
  · next a b c d rest _ =>
    obtain ⟨unit, -, read⟩ := Option.bind_eq_some_iff.mp read
    cases read
    exact List.suffix_append [a, b, c, d] _
  · cases read

/-- Nothing is put in front of the text behind an escape. -/
theorem isSuffix_of_readEscape (read : readEscape text = some (units, after)) : after <:+ text := by
  rw [readEscape.eq_def] at read
  split at read
  · cases read
  · next rest =>
    cases read
    exact List.suffix_append ['\r', '\n'] _
  · next c rest _ =>
    refine List.IsSuffix.trans ?_ (List.suffix_cons c rest)
    split at read
    · cases read
      exact List.suffix_refl _
    split at read
    · exact isSuffix_of_readByte read
    split at read
    · exact isSuffix_of_readPoint read
    split at read
    · cases read
      exact List.drop_suffix _ _
    · cases read
      exact List.suffix_refl _

end Behind

/-! ## Literals -/

/-- What is read, with some units in front. -/
def prepend (front : List Nat) (read : Option (List Nat × List Char)) : Option (List Nat × List Char) :=
  read.map fun (units, behind) => (front ++ units, behind)

theorem prepend_prepend (front middle : List Nat) (read : Option (List Nat × List Char)) :
    prepend front (prepend middle read) = prepend (front ++ middle) read := by
  cases read with
  | none => rfl
  | some found => simp [prepend]

theorem prepend_eq_some_iff {front units : List Nat} {read : Option (List Nat × List Char)} {behind : List Char} :
    prepend front read = some (front ++ units, behind) ↔ read = some (units, behind) := by
  cases read with
  | none => simp [prepend]
  | some found =>
    obtain ⟨more, after⟩ := found
    simp [prepend]

/-- Read the inside of a literal and its closing quote. -/
def readLiteral (quote : Char) : List Char → Option (List Nat × List Char)
  | [] => none
  | c :: rest =>
    if c = quote then some ([], rest)
    else if c = '\n' ∨ c = '\r' then none
    else if c = '\\' then
      match _read : readEscape rest with
      | none => none
      | some (units, after) => prepend units (readLiteral quote after)
    else prepend (unitsOf c) (readLiteral quote rest)
termination_by text => text.length
decreasing_by
  · have shorter := (isSuffix_of_readEscape _read).length_le
    exact Nat.lt_succ_of_le shorter
  · exact Nat.lt_succ_self rest.length

/-- Read a literal in front of a text: its value and the text behind it. -/
def readString : List Char → Option (List Nat × List Char)
  | [] => none
  | quote :: rest => if isQuote quote then readLiteral quote rest else none

variable {quote : Char}

/-- The closing quote ends the literal. -/
theorem readLiteral_quote (rest : List Char) : readLiteral quote (quote :: rest) = some ([], rest) := by
  rw [readLiteral, if_pos rfl]

/-- A bare break of the line ends the reading. -/
theorem readLiteral_break {c : Char} (other : c ≠ quote) (breaks : c = '\n' ∨ c = '\r') (rest : List Char) :
    readLiteral quote (c :: rest) = none := by
  rw [readLiteral, if_neg other, if_pos breaks]

/-- A character that means nothing in a literal stands for itself. -/
theorem readLiteral_cons {c : Char} (other : c ≠ quote) (solid : ¬ (c = '\n' ∨ c = '\r')) (noBackslash : c ≠ '\\')
    (rest : List Char) : readLiteral quote (c :: rest) = prepend (unitsOf c) (readLiteral quote rest) := by
  rw [readLiteral, if_neg other, if_neg solid, if_neg noBackslash]

/-- An escape gives its units. -/
theorem readLiteral_escape (other : '\\' ≠ quote) {text after : List Char} {units : List Nat}
    (read : readEscape text = some (units, after)) :
    readLiteral quote ('\\' :: text) = prepend units (readLiteral quote after) := by
  rw [readLiteral, if_neg other, if_neg (by decide), if_pos rfl]
  split
  · next nothing => rw [nothing] at read; cases read
  · next same => rw [same] at read; cases read; rfl

/-! ## Doubled backslashes -/

/-- Two backslashes stand for one. -/
theorem readLiteral_backslashes (other : '\\' ≠ quote) (rest : List Char) :
    readLiteral quote ('\\' :: '\\' :: rest) = prepend (unitsOf '\\') (readLiteral quote rest) :=
  readLiteral_escape other rfl

/-- **Doubled backslashes.** A text with its backslashes doubled, between two quotes, is a literal for the text,
whatever stands behind it, exactly if the text holds neither the quote nor a bare break of the line. -/
theorem readLiteral_escapeBackslashes_iff (quoted : isQuote quote = true) (text rest : List Char) :
    readLiteral quote (escapeBackslashes text ++ quote :: rest) = some (text.flatMap unitsOf, rest) ↔
      quote ∉ text ∧ '\n' ∉ text ∧ '\r' ∉ text := by
  have noBackslash : '\\' ≠ quote := by
    rintro rfl
    exact absurd quoted (by decide)
  induction text with
  | nil => simp [escapeBackslashes, readLiteral_quote]
  | cons c text ih =>
    have front : escapeBackslashes (c :: text) = (if c = '\\' then ['\\', '\\'] else [c]) ++ escapeBackslashes text :=
      List.flatMap_cons
    rw [List.flatMap_cons, front, List.append_assoc]
    by_cases backslash : c = '\\'
    · subst c
      rw [if_pos rfl, List.cons_append, List.singleton_append, readLiteral_backslashes noBackslash,
        prepend_eq_some_iff]
      exact ih.trans (by simp [noBackslash.symm])
    rw [if_neg backslash, List.singleton_append]
    by_cases closes : c = quote
    · -- The literal ends early, so its value is too short.
      subst c
      rw [readLiteral_quote]
      refine iff_of_false (fun same => ?_) fun outside => outside.1 List.mem_cons_self
      have short : [] = unitsOf quote ++ text.flatMap unitsOf := congrArg Prod.fst (Option.some.inj same)
      exact unitsOf_ne_nil quote (List.append_eq_nil_iff.mp short.symm).1
    by_cases breaks : c = '\n' ∨ c = '\r'
    · rw [readLiteral_break closes breaks]
      refine iff_of_false nofun fun outside => ?_
      rcases breaks with rfl | rfl
      · exact outside.2.1 List.mem_cons_self
      · exact outside.2.2 List.mem_cons_self
    · have solid := not_or.mp breaks
      rw [readLiteral_cons closes breaks backslash, prepend_eq_some_iff]
      exact ih.trans (by simp [Ne.symm closes, Ne.symm solid.1, Ne.symm solid.2])

/-! ## Texts quoted as on the wire -/

/-- A short escape of the wire is one of scripts. -/
theorem readEscape_of_shortEscape? {letter c : Char} (stands : shortEscape? letter = some c) (rest : List Char) :
    readEscape (letter :: rest) = some (unitsOf c, rest) := by
  unfold shortEscape? at stands
  split at stands <;> cases stands <;> rfl

/-- The escape of a UTF-16 unit gives that unit. -/
theorem readLiteral_unitEscape (other : '\\' ≠ quote) {unit : Nat} (small : unit < 0x10000) (rest : List Char) :
    readLiteral quote (unitEscape unit ++ rest) = prepend [unit] (readLiteral quote rest) := by
  have value : ((unit / 0x1000 * 16 + unit / 0x100 % 0x10) * 16 + unit / 0x10 % 0x10) * 16 +
      unit % 0x10 = unit := by omega
  -- A brace instead of the first digit would start the escape of a code point.
  have noBrace : ∀ value < 16, Nat.digitChar value ≠ '{' := by decide
  rw [unitEscape, hexPadded_unit small]
  refine readLiteral_escape other ?_
  show readPoint (_ :: _ :: _ :: _ :: rest) = _
  rw [readPoint.eq_2 _ _ _ _ _ (fun same => noBrace _ (by omega) same), hexValue4?, hexValue?_digitChar _ (by omega),
    hexValue?_digitChar _ (by omega), hexValue?_digitChar _ (by omega), hexValue?_digitChar _ (by omega)]
  simp only [Option.bind_eq_bind, Option.bind_some, Option.pure_def, value]

/-- A character as it is written between quotes on the wire stands for itself in a script. -/
theorem readLiteral_escapeChar (c : Char) (rest : List Char) :
    readLiteral '"' (escapeChar c ++ rest) = prepend (unitsOf c) (readLiteral '"' rest) := by
  have other : '\\' ≠ '"' := by decide
  have valid := not_surrogate c
  have escape := escape_escapeChar c
  generalize escapeChar c = written at escape ⊢
  cases escape with
  | short _ _ stands _ => exact readLiteral_escape other (readEscape_of_shortEscape? stands rest)
  | itself plain noQuote noBackslash =>
    have solid : ¬ (c = '\n' ∨ c = '\r') := by
      rintro (rfl | rfl) <;> exact absurd plain (by decide)
    exact readLiteral_cons noQuote solid noBackslash rest
  | unit low => rw [readLiteral_unitEscape other low, unitsOf, if_pos low]
  | pair high =>
    rw [List.append_assoc, readLiteral_unitEscape other (by omega), readLiteral_unitEscape other (by omega),
      prepend_prepend, unitsOf, if_neg (Nat.not_lt.mpr high)]
    rfl

/-- **Texts quoted as on the wire.** As the wire quotes it, every text is a literal for itself, whatever stands
behind it. -/
theorem readString_renderText (text : String) (rest : List Char) :
    readString (renderText text ++ rest) = some (text.toList.flatMap unitsOf, rest) := by
  have inside (chars : List Char) : readLiteral '"' (chars.flatMap escapeChar ++ '"' :: rest) =
      some (chars.flatMap unitsOf, rest) := by
    induction chars with
    | nil => exact readLiteral_quote rest
    | cons c chars ih =>
      rw [List.flatMap_cons, List.append_assoc, readLiteral_escapeChar, ih]
      rfl
  rw [(readText_renderText text rest).1, readString, if_pos (by decide)]
  exact inside text.toList

end Marginalia.Script
