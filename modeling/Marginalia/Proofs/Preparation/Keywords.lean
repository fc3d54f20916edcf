import Marginalia.Proofs.Preparation.Importing
import Marginalia.Proofs.Preparation.Stability

/-! # Texts without keywords
Each stage of preparation but the last looks for a keyword that stands alone, and leaves a text in which
the keyword does not stand as it is. -/

namespace Marginalia.Preparation

open Text Marker File

/-- A call that requires a module is read only where its word stands alone. -/
theorem alone_of_readRequire {before : Option Char} {text after : List Char} {call : RequireCall}
    (read : readRequire before text = some (call, after)) :
    before.any isWord = false ∧
      ∃ behind, text = "require".toList ++ behind ∧ behind.head?.any isWord = false := by
  obtain ⟨starts, written, isCall, rfl⟩ := exists_of_readRequire read
  obtain ⟨-, -, -, first, second, third, blank, -, -, rfl⟩ := isCall
  refine ⟨not_isWord_of_mayStartKeyword starts, _, List.append_assoc _ _ _, ?_⟩
  rw [List.append_assoc, List.cons_append]
  exact blank.not_isWord_head (by decide) _

/-- Where nothing is read as a call, no module is looked for. -/
theorem resolvePieces_of_chars (tree : Tree) (context : Module.Context) (text : List Char) :
    resolvePieces tree context (text.map .char) = .ok (text, []) := by
  induction text with
  | nil => rfl
  | cons c text ih =>
    rw [List.map_cons, resolvePieces, ih]
    rfl

/-- A text without the word of `require` calls stays as it is, whatever files there are. -/
theorem resolveRequires_of_lacks {text : List Char} (lacks : ¬ HasWord "require".toList text) (tree : Tree)
    (context : Module.Context) : resolveRequires tree context text = .ok (text, []) := by
  have alone : scan readRequire none text = text.map .char := by
    refine scan_of_silent fun front rest parts => ?_
    cases read : readRequire (front.getLast?.or none) rest with
    | none => rfl
    | some found =>
      obtain ⟨before, behind, same, after⟩ := alone_of_readRequire read
      rw [Option.or_none] at before
      exact absurd ⟨front, behind, by rw [parts, same], before, after⟩ lacks
  rw [resolveRequires, alone, resolvePieces_of_chars]

/-- What may stand before the word of a console call is no part of a word. -/
theorem not_isWord_of_mayStartConsole {before : Option Char} (starts : mayStartConsole before = true) :
    before.any isWord = false := by
  cases before with
  | none => rfl
  | some c =>
    simp only [mayStartConsole, isNamePart, Option.any_some, Bool.not_eq_true', Bool.or_eq_false_iff]
      at starts
    exact starts.1

/-- A text without the word of console calls stays as it is, whatever functions are looked for. -/
theorem tagCalls_of_lacks {text : List Char} (lacks : ¬ HasWord "console".toList text)
    (functions : List (List Char)) : tagCalls functions text = text := by
  have lines : ∀ line ∈ (splitLines text).1, LacksCalls functions none line := by
    intro line member front written after parts call
    cases starts : mayStartConsole (front.getLast?.or none) with
    | false => rfl
    | true =>
      rw [Option.or_none] at starts
      obtain ⟨function, -, first, second, third, blank, -, -, rfl⟩ := call
      have stands : HasWord "console".toList line :=
        ⟨front, first ++ '.' :: (second ++ (function ++ (third ++ ['('])) ++ after), by rw [parts]; simp,
          not_isWord_of_mayStartConsole starts, blank.not_isWord_head (by decide) _⟩
      have inText := stands.of_mem_lines (cut_splitLines text) member
      rw [joinLines_splitLines] at inText
      exact absurd inText lacks
  rw [tagCalls, tagLinesFrom_of_lacksCalls lines, joinLines_splitLines]

end Marginalia.Preparation
