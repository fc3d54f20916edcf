/-! # Texts from bytes
A sequence of bytes is read as UTF-8, one byte at a time. A character of several bytes is open until its
last byte came; each byte that goes on with it has a range of its own, which keeps out what is longer
than needed, the surrogates, and what lies above the last character. -/

namespace Marginalia.Text

/-- Why bytes are no text. -/
inductive Utf8Fault where
  /-- A byte that starts no character. -/
  | invalidStart
  /-- A byte that does not go on with an open character. -/
  | invalidContinuation
  /-- The bytes end inside a character. -/
  | unexpectedEnd
  deriving DecidableEq, Repr

/-- The words for a fault. -/
def Utf8Fault.text : Utf8Fault → String
  | .invalidStart => "invalid start byte"
  | .invalidContinuation => "invalid continuation byte"
  | .unexpectedEnd => "unexpected end of data"

/-- Where and why bytes are no text. -/
structure Utf8Error where
  /-- What is wrong. -/
  fault : Utf8Fault
  /-- The first byte that belongs to the fault. -/
  byte : Nat
  /-- The position of that byte. -/
  start : Nat
  /-- The position behind the last byte that belongs to the fault. -/
  stop : Nat
  deriving DecidableEq, Repr

/-- A byte in lower-case hexadecimal. -/
def byteText (byte : Nat) : String :=
  let digits := Nat.toDigits 16 byte
  "0x" ++ String.ofList (List.replicate (2 - digits.length) '0' ++ digits)

/-- The text of the error. -/
def Utf8Error.message (error : Utf8Error) : String :=
  let place :=
    if error.stop = error.start + 1 then s!"byte {byteText error.byte} in position {error.start}"
    else s!"bytes in position {error.start}-{error.stop - 1}"
  s!"'utf-8' codec can't decode {place}: {error.fault.text}"

/-- A character of which some bytes have come. -/
structure OpenChar where
  /-- Its first byte. -/
  byte : Nat
  /-- The position of its first byte. -/
  start : Nat
  /-- The bits that have come. -/
  value : Nat
  /-- The ranges of the bytes that are missing. -/
  missing : List (Nat × Nat)
  deriving DecidableEq, Repr

/-- The range of a byte that goes on with a character. -/
def anyContinuation : Nat × Nat := (0x80, 0xBF)

/-- The bits of a first byte and the ranges of the bytes after it; nothing for a byte that starts no
character of several bytes. -/
def openingOf? (byte : Nat) : Option (Nat × List (Nat × Nat)) :=
  if 0xC2 ≤ byte ∧ byte ≤ 0xDF then some (byte - 0xC0, [anyContinuation])
  else if byte = 0xE0 then some (0, [(0xA0, 0xBF), anyContinuation])
  else if byte = 0xED then some (0xD, [(0x80, 0x9F), anyContinuation])
  else if 0xE1 ≤ byte ∧ byte ≤ 0xEF then some (byte - 0xE0, [anyContinuation, anyContinuation])
  else if byte = 0xF0 then some (0, [(0x90, 0xBF), anyContinuation, anyContinuation])
  else if byte = 0xF4 then some (4, [(0x80, 0x8F), anyContinuation, anyContinuation])
  else if 0xF1 ≤ byte ∧ byte ≤ 0xF3 then
    some (byte - 0xF0, [anyContinuation, anyContinuation, anyContinuation])
  else none

/-- Read bytes from a position on, possibly inside a character. -/
def decodeUtf8From (position : Nat) : Option OpenChar → List UInt8 → Except Utf8Error (List Char)
  | none, [] => .ok []
  | some begun, [] => .error ⟨.unexpectedEnd, begun.byte, begun.start, position⟩
  | none, byte :: bytes =>
    let code := byte.toNat
    if code < 0x80 then (decodeUtf8From (position + 1) none bytes).map (Char.ofNat code :: ·)
    else
      match openingOf? code with
      | some (value, missing) =>
        decodeUtf8From (position + 1) (some ⟨code, position, value, missing⟩) bytes
      | none => .error ⟨.invalidStart, code, position, position + 1⟩
  | some begun, byte :: bytes =>
    let code := byte.toNat
    let value := begun.value * 0x40 + (code - 0x80)
    match begun.missing with
    | [(low, high)] =>
      if low ≤ code ∧ code ≤ high then
        (decodeUtf8From (position + 1) none bytes).map (Char.ofNat value :: ·)
      else .error ⟨.invalidContinuation, begun.byte, begun.start, position⟩
    | (low, high) :: missing =>
      if low ≤ code ∧ code ≤ high then
        decodeUtf8From (position + 1) (some { begun with value, missing }) bytes
      else .error ⟨.invalidContinuation, begun.byte, begun.start, position⟩
    | [] => .error ⟨.invalidContinuation, begun.byte, begun.start, position⟩

/-- Read bytes as a text. -/
def decodeUtf8 (bytes : List UInt8) : Except Utf8Error (List Char) := decodeUtf8From 0 none bytes

@[simp] theorem decodeUtf8_nil : decodeUtf8 [] = .ok [] := rfl

end Marginalia.Text
