import Marginalia.Json.Reader
import Marginalia.Json.Writer

/-! # Quoted texts on the wire
A text between quotes is read back as it was (`readText_renderText`), whatever characters it holds and
whatever comes behind it. Each character is written as one escape or as itself, a character beyond the
first 65536 as two escapes, and everything between the quotes is plain ASCII (`isPlain_of_mem_renderText`). -/

namespace Marginalia.Json

open Text

/-! ## Hexadecimal digits -/

/-- A character of ASCII that is no control character. -/
def isPlain (c : Char) : Bool := ' ' ≤ c && c ≤ '~'

/-- A plain character lies between the space and the tilde. -/
theorem isPlain_iff {c : Char} : isPlain c = true ↔ 0x20 ≤ c.toNat ∧ c.toNat ≤ 0x7E := by
  rw [isPlain, Bool.and_eq_true, decide_eq_true_eq, decide_eq_true_eq]
  exact Iff.rfl

/-- The digit of a value below sixteen is read as that value. -/
theorem hexValue?_digitChar : ∀ value < 16, hexValue? (Nat.digitChar value) = some value := by decide

theorem isPlain_digitChar : ∀ value < 16, isPlain (Nat.digitChar value) = true := by decide

/-- A UTF-16 unit is written with four digits, those that stand for nothing included. -/
theorem hexPadded_unit {unit : Nat} (small : unit < 0x10000) :
    hexPadded 4 unit = [Nat.digitChar (unit / 0x1000), Nat.digitChar (unit / 0x100 % 0x10),
      Nat.digitChar (unit / 0x10 % 0x10), Nat.digitChar (unit % 0x10)] := by
  have zero : '0' = Nat.digitChar 0 := rfl
  -- One digit is split off from the end as long as more than one is left.
  have more {n : Nat} (large : 0x10 ≤ n) :
      Nat.toDigits 0x10 n = Nat.toDigits 0x10 (n / 0x10) ++ [Nat.digitChar (n % 0x10)] :=
    Nat.toDigits_of_base_le (by decide) large
  have last {n : Nat} (little : n < 0x10) : Nat.toDigits 0x10 n = [Nat.digitChar n] :=
    Nat.toDigits_of_lt_base little
  unfold hexPadded
  by_cases one : unit < 0x10
  · have high : unit / 0x1000 = 0 ∧ unit / 0x100 % 0x10 = 0 ∧ unit / 0x10 % 0x10 = 0 := by omega
    rw [last one, high.1, high.2.1, high.2.2, Nat.mod_eq_of_lt one, ← zero]
    rfl
  · by_cases two : unit < 0x100
    · have high : unit / 0x1000 = 0 ∧ unit / 0x100 % 0x10 = 0 := by omega
      have low : unit / 0x10 % 0x10 = unit / 0x10 := by omega
      rw [more (by omega), last (by omega : unit / 0x10 < 0x10), high.1, high.2, low, ← zero]
      rfl
    · by_cases three : unit < 0x1000
      · have high : unit / 0x1000 = 0 := by omega
        have low : unit / 0x10 / 0x10 = unit / 0x100 % 0x10 := by omega
        rw [more (by omega), more (by omega : 0x10 ≤ unit / 0x10),
          last (by omega : unit / 0x10 / 0x10 < 0x10), high, low, ← zero]
        rfl
      · have top : unit / 0x10 / 0x10 / 0x10 = unit / 0x1000 := by omega
        have next : unit / 0x10 / 0x10 % 0x10 = unit / 0x100 % 0x10 := by omega
        rw [more (by omega), more (by omega : 0x10 ≤ unit / 0x10),
          more (by omega : 0x10 ≤ unit / 0x10 / 0x10),
          last (by omega : unit / 0x10 / 0x10 / 0x10 < 0x10), top, next]
        rfl

/-- The digits of a UTF-16 unit are read as that unit. -/
theorem readUnits_unitEscape {unit : Nat} (small : unit < 0x10000) (rest : List Char) :
    readUnits (unitEscape unit ++ rest) =
      (readUnits rest).map fun (units, after) => (unit :: units, after) := by
  have value : ((unit / 0x1000 * 16 + unit / 0x100 % 0x10) * 16 + unit / 0x10 % 0x10) * 16 +
      unit % 0x10 = unit := by omega
  rw [unitEscape, hexPadded_unit small]
  simp only [List.cons_append, List.nil_append]
  rw [readUnits, hexValue4?, hexValue?_digitChar _ (by omega), hexValue?_digitChar _ (by omega),
    hexValue?_digitChar _ (by omega), hexValue?_digitChar _ (by omega)]
  simp only [Option.bind_eq_bind, Option.bind_some, Option.pure_def, value]
  cases readUnits rest <;> rfl

theorem isPlain_of_mem_unitEscape {unit : Nat} (small : unit < 0x10000) {c : Char}
    (member : c ∈ unitEscape unit) : isPlain c = true := by
  rw [unitEscape, hexPadded_unit small] at member
  simp only [List.mem_cons, List.not_mem_nil, or_false] at member
  rcases member with rfl | rfl | rfl | rfl | rfl | rfl
  · decide
  · decide
  · exact isPlain_digitChar _ (by omega)
  · exact isPlain_digitChar _ (by omega)
  · exact isPlain_digitChar _ (by omega)
  · exact isPlain_digitChar _ (by omega)

/-! ## Characters -/

/-- The UTF-16 units of a character. -/
def unitsOf (c : Char) : List Nat :=
  if c.toNat < 0x10000 then [c.toNat]
  else [0xD800 + (c.toNat - 0x10000) / 0x400, 0xDC00 + (c.toNat - 0x10000) % 0x400]

/-- No character is half of a surrogate pair. -/
theorem not_surrogate (c : Char) : c.toNat < 0xD800 ∨ 0xDFFF < c.toNat ∧ c.toNat < 0x110000 := c.valid

/-- The ways in which a character is written between quotes. -/
inductive Escape (c : Char) : List Char → Prop where
  /-- A backslash and a letter that stands for the character. -/
  | short {letter : Char} (other : letter ≠ 'u') (plain : isPlain letter = true)
      (stands : shortEscape? letter = some c) (low : c.toNat < 0x10000) : Escape c ['\\', letter]
  /-- The character itself. -/
  | itself (plain : isPlain c = true) (noQuote : c ≠ '"') (noBackslash : c ≠ '\\') : Escape c [c]
  /-- The escape of its only UTF-16 unit. -/
  | unit (low : c.toNat < 0x10000) : Escape c (unitEscape c.toNat)
  /-- The escapes of its two UTF-16 units. -/
  | pair (high : 0x10000 ≤ c.toNat) : Escape c (unitEscape (0xD800 + (c.toNat - 0x10000) / 0x400) ++
      unitEscape (0xDC00 + (c.toNat - 0x10000) % 0x400))

/-- Every character is written in one of these ways. -/
theorem escape_escapeChar (c : Char) : Escape c (escapeChar c) := by
  have named {code : Nat} (same : c.toNat = code) : c = Char.ofNat code := by rw [← same, Char.ofNat_toNat]
  unfold escapeChar
  split
  · subst c
    exact .short (by decide) (by decide) rfl (by decide)
  split
  · subst c
    exact .short (by decide) (by decide) rfl (by decide)
  split
  · subst c
    exact .short (by decide) (by decide) rfl (by decide)
  split
  · subst c
    exact .short (by decide) (by decide) rfl (by decide)
  split
  · subst c
    exact .short (by decide) (by decide) rfl (by decide)
  split
  · next back =>
    obtain rfl := named back
    exact .short (by decide) (by decide) rfl (by decide)
  split
  · next feed =>
    obtain rfl := named feed
    exact .short (by decide) (by decide) rfl (by decide)
  split
  · next quote backslash _ _ _ _ _ range =>
    exact .itself (isPlain_iff.mpr ⟨range.1, Nat.le_of_lt_succ range.2⟩) quote backslash
  split
  · next low => exact .unit low
  · next high => exact .pair (Nat.le_of_not_lt high)

/-- A character between quotes is read as its units. -/
theorem readUnits_escapeChar (c : Char) (rest : List Char) :
    readUnits (escapeChar c ++ rest) =
      (readUnits rest).map fun (units, after) => (unitsOf c ++ units, after) := by
  have valid := not_surrogate c
  have escape := escape_escapeChar c
  generalize escapeChar c = written at escape ⊢
  cases escape with
  | short other _ stands low =>
    rw [List.cons_append, List.singleton_append,
      readUnits.eq_4 _ _ (by rintro _ _ _ _ _ rfl; exact absurd rfl other), stands, unitsOf, if_pos low]
    cases readUnits rest <;> rfl
  | itself plain noQuote noBackslash =>
    obtain ⟨notLow, notHigh⟩ := isPlain_iff.mp plain
    have low : ¬ c.toNat < 0x20 := Nat.not_lt.mpr notLow
    have high : c.toNat < 0x10000 := Nat.lt_of_le_of_lt notHigh (by decide)
    have kept : (decide (c.toNat < 0x20) || c == '\\') = false := by simp [noBackslash, low]
    rw [List.singleton_append, readUnits.eq_5 _ _ (fun same => noQuote same)
      (by rintro _ _ _ _ _ rfl; exact absurd rfl noBackslash)
      (by rintro _ _ rfl; exact absurd rfl noBackslash), kept, if_neg Bool.false_ne_true, unitsOf,
      if_pos high]
    rfl
  | unit low =>
    rw [readUnits_unitEscape low, unitsOf, if_pos low]
    rfl
  | pair high =>
    rw [List.append_assoc, readUnits_unitEscape (by omega), readUnits_unitEscape (by omega), unitsOf,
      if_neg (Nat.not_lt.mpr high)]
    cases readUnits rest <;> rfl

/-- A character is the one of its code point. -/
theorem unitChar_toNat (c : Char) : unitChar c.toNat = c := by
  have valid := not_surrogate c
  rw [unitChar, if_neg (by omega), Char.ofNat_toNat]

/-- The units of a character are joined to that character, whatever units come behind them. -/
theorem joinUnits_unitsOf (c : Char) (units : List Nat) :
    joinUnits (unitsOf c ++ units) = c :: joinUnits units := by
  have valid := not_surrogate c
  unfold unitsOf
  split
  · -- One unit is no half of a pair, so it stands alone.
    cases units with
    | nil => simp [joinUnits, unitChar_toNat]
    | cons low units =>
      rw [List.singleton_append, joinUnits, if_neg (by omega), unitChar_toNat]
  · have high : 0xD800 ≤ 0xD800 + (c.toNat - 0x10000) / 0x400 ∧
        0xD800 + (c.toNat - 0x10000) / 0x400 < 0xDC00 ∧
        0xDC00 ≤ 0xDC00 + (c.toNat - 0x10000) % 0x400 ∧
        0xDC00 + (c.toNat - 0x10000) % 0x400 < 0xE000 := by omega
    have point : 0x10000 + (0xD800 + (c.toNat - 0x10000) / 0x400 - 0xD800) * 0x400 +
        (0xDC00 + (c.toNat - 0x10000) % 0x400 - 0xDC00) = c.toNat := by omega
    rw [List.cons_append, List.singleton_append, joinUnits, if_pos high, point, Char.ofNat_toNat]

/-- A character between quotes is plain ASCII. -/
theorem isPlain_of_mem_escapeChar {c d : Char} (member : d ∈ escapeChar c) : isPlain d = true := by
  have valid := not_surrogate c
  have escape := escape_escapeChar c
  generalize escapeChar c = written at escape member
  cases escape with
  | short _ plain =>
    simp only [List.mem_cons, List.not_mem_nil, or_false] at member
    rcases member with rfl | rfl
    · decide
    · exact plain
  | itself plain => exact List.mem_singleton.mp member ▸ plain
  | unit low => exact isPlain_of_mem_unitEscape low member
  | pair high =>
    rcases List.mem_append.mp member with inside | inside
    · exact isPlain_of_mem_unitEscape (by omega) inside
    · exact isPlain_of_mem_unitEscape (by omega) inside

/-! ## Texts -/

/-- **A quoted text is read back.** -/
theorem readText_renderText (text : String) (rest : List Char) :
    renderText text ++ rest = '"' :: (text.toList.flatMap escapeChar ++ '"' :: rest) ∧
      readText (text.toList.flatMap escapeChar ++ '"' :: rest) = some (text, rest) := by
  have units (chars : List Char) : readUnits (chars.flatMap escapeChar ++ '"' :: rest) =
      some (chars.flatMap unitsOf, rest) := by
    induction chars with
    | nil => rfl
    | cons c chars ih =>
      rw [List.flatMap_cons, List.append_assoc, readUnits_escapeChar, ih, Option.map_some, List.flatMap_cons]
  have joined (chars : List Char) : joinUnits (chars.flatMap unitsOf) = chars := by
    induction chars with
    | nil => rfl
    | cons c chars ih => rw [List.flatMap_cons, joinUnits_unitsOf, ih]
  refine ⟨by simp [renderText], ?_⟩
  rw [readText, units, Option.map_some]
  show some (String.ofList (joinUnits _), rest) = _
  rw [joined, String.ofList_toList]

/-- A quoted text is plain ASCII. -/
theorem isPlain_of_mem_renderText {text : String} {c : Char} (member : c ∈ renderText text) :
    isPlain c = true := by
  rw [renderText, List.mem_cons, List.mem_append, List.mem_singleton, List.mem_flatMap] at member
  rcases member with rfl | ⟨escaped, -, inside⟩ | rfl
  · decide
  · exact isPlain_of_mem_escapeChar inside
  · decide

end Marginalia.Json
