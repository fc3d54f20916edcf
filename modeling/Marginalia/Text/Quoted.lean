import Marginalia.Text.Category

/-! # Quoted texts
How a text is shown inside a diagnostic: between quotes, with the characters that would break the
line or cannot be seen written as escapes. Single quotes are used unless the text holds a single
quote and no double quote. -/

namespace Marginalia.Text

/-- A number in lower-case hexadecimal, padded with zeros to a width. -/
def hexPadded (width : Nat) (n : Nat) : List Char :=
  let digits := Nat.toDigits 16 n
  List.replicate (width - digits.length) '0' ++ digits

/-- One character of a quoted text. -/
def quoteChar (quote c : Char) : List Char :=
  if c = quote || c = '\\' then ['\\', c]
  else if c = '\n' then ['\\', 'n']
  else if c = '\r' then ['\\', 'r']
  else if c = '\t' then ['\\', 't']
  else if isPrintable c then [c]
  else if c.toNat ≤ 0xFF then '\\' :: 'x' :: hexPadded 2 c.toNat
  else if c.toNat ≤ 0xFFFF then '\\' :: 'u' :: hexPadded 4 c.toNat
  else '\\' :: 'U' :: hexPadded 8 c.toNat

/-- The quote chosen for a text. -/
def quoteFor (text : List Char) : Char :=
  if text.contains '\'' && !text.contains '"' then '"' else '\''

/-- A text between quotes, escaped. -/
def quoted (text : List Char) : List Char :=
  let quote := quoteFor text
  quote :: (text.flatMap (quoteChar quote) ++ [quote])

/-- A string between quotes, escaped. -/
def quotedString (text : String) : String := String.ofList (quoted text.toList)

end Marginalia.Text
