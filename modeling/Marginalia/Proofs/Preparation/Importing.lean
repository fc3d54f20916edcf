import Marginalia.Preparation.ImportDeclaration
import Marginalia.Proofs.Text.Scanning
import Marginalia.Proofs.Text.Trimming
import Marginalia.Proofs.Text.Words

/-! # Reading imports
Whatever an import binds, it is read up to the closing quote of the module it names
(`namesModule_of_readImport`). In front of the opening quote stands a word that announces the module,
and quotation marks stand before that word only between the braces of a clause (`Announces`). -/

namespace Marginalia.Preparation

open Text

/-! ## Texts without quotation marks -/

/-- A text without quotation marks. -/
def Unquoted (text : List Char) : Prop := ∀ c ∈ text, isQuote c = false

instance (text : List Char) : Decidable (Unquoted text) :=
  List.decidableBAll (fun c => isQuote c = false) text

theorem Unquoted.append {first second : List Char} (quiet : Unquoted first) (later : Unquoted second) :
    Unquoted (first ++ second) := List.forall_mem_append.mpr ⟨quiet, later⟩

theorem Unquoted.of_suffix {text part : List Char} (quiet : Unquoted text) (ends : part <:+ text) :
    Unquoted part := fun c member => quiet c (ends.subset member)

/-- A text of characters that are no quotation marks. -/
theorem unquoted_of_forall {inside : Char → Bool} (double : inside '"' = false)
    (single : inside '\'' = false) {text : List Char} (all : ∀ c ∈ text, inside c = true) :
    Unquoted text := by
  intro c member
  have first : c ≠ '"' := ne_of_apply_ne inside (by simp [all c member, double])
  have second : c ≠ '\'' := ne_of_apply_ne inside (by simp [all c member, single])
  simp [isQuote, first, second]

theorem Unquoted.of_blank {blanks : List Char} (blank : Blank blanks) : Unquoted blanks :=
  unquoted_of_forall (by decide) (by decide) blank

/-- The characters of a name are no quotation marks. -/
theorem Unquoted.of_name {name : List Char} (parts : ∀ c ∈ name, isNamePart c = true) : Unquoted name :=
  unquoted_of_forall (by decide) (by decide) parts

theorem unquoted_import : Unquoted "import".toList := by decide

theorem unquoted_fromWord : Unquoted fromWord := by decide

/-- A quotation mark is no white space. -/
theorem isBlank_of_isQuote {c : Char} (quoted : isQuote c = true) : isBlank c = false := by
  simp only [isQuote, Bool.or_eq_true, beq_iff_eq] at quoted
  rcases quoted with rfl | rfl <;> decide

/-! ## What stands in front of a module name -/

/-- A text that announces the module named behind it. -/
def Announces (front : List Char) : Prop :=
  (Unquoted front ∧ ∃ word blanks, (word = "import".toList ∨ word = fromWord) ∧ Blank blanks ∧
    word ++ blanks <:+ front) ∨
  ∃ first second, Blank first ∧ Blank second ∧ '}' :: (first ++ (fromWord ++ second)) <:+ front

/-- A text that announces a module and names it between quotes, and the text after it. -/
def NamesModule (text after : List Char) : Prop :=
  ∃ front quote name, Announces front ∧ isQuote quote = true ∧ name ≠ [] ∧
    (∀ c ∈ name, isModuleChar c = true) ∧ text = front ++ quote :: (name ++ quote :: after)

/-- Another text in front changes nothing, if it has no quotation marks. -/
theorem NamesModule.append_left {text after : List Char} (names : NamesModule text after)
    {front : List Char} (quiet : Unquoted front) : NamesModule (front ++ text) after := by
  obtain ⟨others, quote, name, announces, isQuote, something, all, rfl⟩ := names
  refine ⟨front ++ others, quote, name, ?_, isQuote, something, all, (List.append_assoc _ _ _).symm⟩
  rcases announces with ⟨othersQuiet, word, blanks, isWord, blank, ends⟩ |
    ⟨first, second, blankFirst, blankSecond, ends⟩
  · exact .inl ⟨quiet.append othersQuiet, word, blanks, isWord, blank, ends.trans (List.suffix_append _ _)⟩
  · exact .inr ⟨first, second, blankFirst, blankSecond, ends.trans (List.suffix_append _ _)⟩

/-- Something stands in front of the text after the module. -/
theorem NamesModule.exists_front {text after : List Char} (names : NamesModule text after) :
    ∃ written, written ≠ [] ∧ text = written ++ after := by
  obtain ⟨front, quote, name, -, -, -, -, rfl⟩ := names
  exact ⟨front ++ quote :: (name ++ [quote]), by simp, by simp⟩

/-! ## Readers -/

/-- A module is read between two quotes of one kind. -/
theorem exists_of_readModule {text name after : List Char} (read : readModule text = some (name, after)) :
    ∃ quote, isQuote quote = true ∧ name ≠ [] ∧ (∀ c ∈ name, isModuleChar c = true) ∧
      text = quote :: (name ++ quote :: after) := by
  cases text with
  | nil => cases read
  | cons quote text =>
    rw [readModule] at read
    split at read
    · next isQuote =>
      split at read
      · next first others closing rest span =>
        split at read
        · next same =>
          subst same
          cases read
          have whole := spanOf_append isModuleChar text
          have inside : (spanOf isModuleChar text).1.all isModuleChar = true := List.all_takeWhile
          rw [span] at whole inside
          exact ⟨closing, isQuote, List.cons_ne_nil _ _, List.all_eq_true.mp inside, by rw [← whole]⟩
        · cases read
      · cases read
    · cases read

/-- A module that is read behind the word that announces it, with white space between them. -/
theorem namesModule_of_readModule {word text name after : List Char}
    (announces : word = "import".toList ∨ word = fromWord)
    (read : readModule (skipBlanks text) = some (name, after)) : NamesModule (word ++ text) after := by
  obtain ⟨quote, isQuote, something, all, rest⟩ := exists_of_readModule read
  obtain ⟨blanks, blank, parts⟩ := exists_skipBlanks text
  have quiet : Unquoted word := by
    rcases announces with rfl | rfl
    · exact unquoted_import
    · exact unquoted_fromWord
  refine ⟨word ++ blanks, quote, name,
    .inl ⟨quiet.append (.of_blank blank), word, blanks, announces, blank, List.suffix_refl _⟩,
    isQuote, something, all, ?_⟩
  rw [parts, rest, List.append_assoc]

/-- A module that is read with the word before it. -/
theorem namesModule_of_readFrom {text name after : List Char} (read : readFrom text = some (name, after)) :
    NamesModule text after := by
  obtain ⟨behind, word, read⟩ := Option.bind_eq_some_iff.mp read
  rw [expect_eq_some_iff.mp word]
  exact namesModule_of_readModule (.inr rfl) read

/-- A module that is read with the word before it, behind a brace. -/
theorem namesModule_of_brace {text name after : List Char}
    (read : readFrom (skipBlanks text) = some (name, after)) (clause : List Char) :
    NamesModule (clause ++ '}' :: text) after := by
  obtain ⟨behind, word, read⟩ := Option.bind_eq_some_iff.mp read
  obtain ⟨quote, isQuote, something, all, rest⟩ := exists_of_readModule read
  obtain ⟨first, blankFirst, parts⟩ := exists_skipBlanks text
  obtain ⟨second, blankSecond, behindParts⟩ := exists_skipBlanks behind
  refine ⟨clause ++ '}' :: (first ++ (fromWord ++ second)), quote, name,
    .inr ⟨first, second, blankFirst, blankSecond, List.suffix_append _ _⟩, isQuote, something, all, ?_⟩
  rw [parts, expect_eq_some_iff.mp word, behindParts, rest]
  simp

/-- The end of a declaration from its named imports on. -/
theorem namesModule_of_readClauseTail {defaultName namespaceName : Option (List Char)}
    {text after : List Char} {declaration : ImportDeclaration}
    (read : readClauseTail defaultName namespaceName text = some (declaration, after)) :
    NamesModule text after := by
  rw [readClauseTail.eq_def] at read
  split at read
  · next text =>
    split at read
    · next clause behind span =>
      obtain ⟨⟨name, rest⟩, named, same⟩ := Option.map_eq_some_iff.mp read
      cases same
      have whole := spanOf_append (fun c => c != '{' && c != '}') text
      rw [span] at whole
      rw [← whole]
      exact namesModule_of_brace named ('{' :: clause)
    · cases read
  · obtain ⟨⟨name, rest⟩, named, same⟩ := Option.map_eq_some_iff.mp read
    cases same
    exact namesModule_of_readFrom named

/-- A name is read from the front of a text and is made of the characters of names. -/
theorem exists_of_readName {text name after : List Char} (read : readName text = some (name, after)) :
    text = name ++ after ∧ ∀ c ∈ name, isNamePart c = true := by
  cases text with
  | nil => cases read
  | cons first text =>
    rw [readName] at read
    split at read
    · next start =>
      cases read
      refine ⟨by rw [List.cons_append, List.takeWhile_append_dropWhile], ?_⟩
      exact List.forall_mem_cons.mpr
        ⟨isNamePart_of_isNameStart start, List.all_eq_true.mp List.all_takeWhile⟩
    · cases read

/-- A module that is read behind a name to whose end the word before the module is glued. -/
theorem namesModule_of_unglued {name front text moduleName after : List Char} (quiet : Unquoted name)
    (glued : ungluedName name = some front)
    (read : readModule (skipBlanks text) = some (moduleName, after)) :
    NamesModule (name ++ text) after := by
  rw [ungluedName] at glued
  split at glued
  · next parts =>
    cases glued
    rw [parts.2] at quiet
    rw [parts.2, List.append_assoc]
    exact (namesModule_of_readModule (.inr rfl) read).append_left fun c member =>
      quiet c (List.mem_append_left _ member)
  · cases glued

/-- The name of the whole module is read behind nothing but white space and a word. -/
theorem exists_of_readNamespaceName {text name after : List Char}
    (read : readNamespaceName text = some (name, after)) :
    (∀ c ∈ name, isNamePart c = true) ∧ ∃ front, Unquoted front ∧ text = front ++ (name ++ after) := by
  obtain ⟨behind, word, read⟩ := Option.bind_eq_some_iff.mp read
  dsimp only at read
  split at read
  · obtain ⟨parts, all⟩ := exists_of_readName read
    obtain ⟨first, blankFirst, firstParts⟩ := exists_skipBlanks text
    obtain ⟨second, blankSecond, secondParts⟩ := exists_skipBlanks behind
    have asQuiet : Unquoted "as".toList := by decide
    refine ⟨all, first ++ ("as".toList ++ second),
      .append (.of_blank blankFirst) (asQuiet.append (.of_blank blankSecond)), ?_⟩
    rw [firstParts, expect_eq_some_iff.mp word, secondParts, parts]
    simp
  · cases read

/-- The end of a declaration from its binding of the whole module on. -/
theorem namesModule_of_readNamespaceTail {defaultName : Option (List Char)} {text after : List Char}
    {declaration : ImportDeclaration}
    (read : readNamespaceTail defaultName text = some (declaration, after)) : NamesModule text after := by
  rw [readNamespaceTail.eq_def] at read
  split at read
  · next text =>
    obtain ⟨⟨name, rest⟩, named, read⟩ := Option.bind_eq_some_iff.mp read
    obtain ⟨all, front, frontQuiet, parts⟩ := exists_of_readNamespaceName named
    have quiet : Unquoted _ := .of_name all
    have starred : Unquoted ('*' :: front) := List.forall_mem_cons.mpr ⟨by decide, frontQuiet⟩
    rw [parts, ← List.cons_append]
    refine NamesModule.append_left ?_ starred
    rcases Option.or_eq_some_iff.mp read with tail | ⟨-, glued⟩
    · obtain ⟨blanks, blank, blanksParts⟩ := exists_skipBlanks rest
      rw [blanksParts, ← List.append_assoc]
      exact (namesModule_of_readClauseTail tail).append_left (quiet.append (.of_blank blank))
    · obtain ⟨front, unglued, glued⟩ := Option.bind_eq_some_iff.mp glued
      obtain ⟨⟨moduleName, last⟩, named, same⟩ := Option.bind_eq_some_iff.mp glued
      cases same
      exact namesModule_of_unglued quiet unglued named
  · exact namesModule_of_readClauseTail read

/-- A comma that is skipped is no quotation mark. -/
theorem exists_skipComma (text : List Char) : ∃ comma, Unquoted comma ∧ text = comma ++ skipComma text := by
  rw [skipComma.eq_def]
  split
  · exact ⟨[','], by simp [Unquoted, isQuote], rfl⟩
  · exact ⟨[], List.forall_mem_nil _, rfl⟩

/-- A declaration that binds the default export first. -/
theorem namesModule_of_readDefaultFirst {text after : List Char} {declaration : ImportDeclaration}
    (read : readDefaultFirst text = some (declaration, after)) : NamesModule text after := by
  obtain ⟨⟨name, rest⟩, named, read⟩ := Option.bind_eq_some_iff.mp read
  obtain ⟨parts, all⟩ := exists_of_readName named
  have quiet : Unquoted name := .of_name all
  rw [parts]
  rcases Option.or_eq_some_iff.mp read with tail | ⟨-, glued⟩
  · obtain ⟨first, blankFirst, firstParts⟩ := exists_skipBlanks rest
    obtain ⟨comma, commaQuiet, commaParts⟩ := exists_skipComma (skipBlanks rest)
    obtain ⟨second, blankSecond, secondParts⟩ := exists_skipBlanks (skipComma (skipBlanks rest))
    rw [firstParts, commaParts, secondParts]
    exact ((((namesModule_of_readNamespaceTail tail).append_left (.of_blank blankSecond)).append_left
      commaQuiet).append_left (.of_blank blankFirst)).append_left quiet
  · obtain ⟨front, unglued, glued⟩ := Option.bind_eq_some_iff.mp glued
    obtain ⟨⟨moduleName, last⟩, moduleRead, same⟩ := Option.bind_eq_some_iff.mp glued
    cases same
    exact namesModule_of_unglued quiet unglued moduleRead

/-! ## Imports -/

/-- What may stand before a keyword is no part of a word. -/
theorem not_isWord_of_mayStartKeyword {before : Option Char} (starts : mayStartKeyword before = true) :
    before.any isWord = false := by
  cases before with
  | none => rfl
  | some c =>
    simp only [mayStartKeyword, joinsKeyword, Option.any_some, Bool.not_eq_true', Bool.or_eq_false_iff]
      at starts
    exact starts.1.1

/-- An import that binds names starts with the keyword, which stands alone, and names a module. -/
theorem namesModule_of_readImport {before : Option Char} {text after : List Char}
    {declaration : ImportDeclaration} (read : readImport before text = some (declaration, after)) :
    NamesModule text after ∧ before.any isWord = false ∧
      ∃ behind, text = "import".toList ++ behind ∧ behind.head?.any isWord = false := by
  rw [readImport] at read
  split at read
  · next starts =>
    obtain ⟨behind, word, read⟩ := Option.bind_eq_some_iff.mp read
    split at read
    · next opens =>
      have parts := expect_eq_some_iff.mp word
      refine ⟨?_, not_isWord_of_mayStartKeyword starts, behind, parts, ?_⟩
      · dsimp only at read
        split at read
        · cases read
        · obtain ⟨blanks, blank, blanksParts⟩ := exists_skipBlanks behind
          rw [parts, blanksParts, ← List.append_assoc]
          refine NamesModule.append_left ?_ (unquoted_import.append (.of_blank blank))
          rcases Option.or_eq_some_iff.mp read with tail | ⟨-, tail⟩
          · exact namesModule_of_readDefaultFirst tail
          · exact namesModule_of_readNamespaceTail tail
      · cases first : behind.head? with
        | none => rfl
        | some c =>
          rw [opensDeclaration, first] at opens
          simp only [Option.any_some, Bool.or_eq_true, beq_iff_eq] at opens
          rcases opens with (blank | rfl) | rfl
          · exact isWord_of_isBlank blank
          · decide
          · decide
    · cases read
  · cases read

/-- Imports that bind names are read from the front of a text. -/
theorem readsFront_readImport : Recogniser.ReadsFront readImport :=
  fun _ _ _ _ read => (namesModule_of_readImport read).1.exists_front

/-- An import that binds nothing is the keyword and a module between quotes, with nothing but white space
between them. -/
theorem exists_of_readBareImport {before : Option Char} {text name after : List Char}
    (read : readBareImport before text = some (name, after)) :
    mayStartKeyword before = true ∧ name ≠ [] ∧ (∀ c ∈ name, isModuleChar c = true) ∧
      ∃ blanks quote, Blank blanks ∧ isQuote quote = true ∧
        text = "import".toList ++ (blanks ++ quote :: (name ++ quote :: after)) := by
  rw [readBareImport] at read
  split at read
  · next starts =>
    obtain ⟨behind, word, read⟩ := Option.bind_eq_some_iff.mp read
    obtain ⟨quote, isQuote, something, all, rest⟩ := exists_of_readModule read
    obtain ⟨blanks, blank, skipped⟩ := exists_skipBlanks behind
    exact ⟨starts, something, all, blanks, quote, blank, isQuote,
      by rw [expect_eq_some_iff.mp word, skipped, rest]⟩
  · cases read

/-- An import that binds nothing starts with the keyword, which stands alone, and names a module. -/
theorem namesModule_of_readBareImport {before : Option Char} {text name after : List Char}
    (read : readBareImport before text = some (name, after)) :
    NamesModule text after ∧ before.any isWord = false ∧
      ∃ behind, text = "import".toList ++ behind ∧ behind.head?.any isWord = false := by
  obtain ⟨starts, something, all, blanks, quote, blank, quoted, parts⟩ := exists_of_readBareImport read
  refine ⟨⟨"import".toList ++ blanks, quote, name, .inl ⟨unquoted_import.append (.of_blank blank),
    "import".toList, blanks, .inl rfl, blank, List.suffix_refl _⟩, quoted, something, all, ?_⟩,
    not_isWord_of_mayStartKeyword starts, _, parts, blank.not_isWord_head ?_ _⟩
  · rw [parts, List.append_assoc]
  · rcases Bool.or_eq_true_iff.mp quoted with double | single
    · rw [beq_iff_eq.mp double]
      decide
    · rw [beq_iff_eq.mp single]
      decide

/-- Imports that bind nothing are read from the front of a text. -/
theorem readsFront_readBareImport : Recogniser.ReadsFront readBareImport :=
  fun _ _ _ _ read => (namesModule_of_readBareImport read).1.exists_front

end Marginalia.Preparation
