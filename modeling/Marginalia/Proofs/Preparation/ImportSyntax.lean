import Marginalia.Proofs.Preparation.Importing

/-! # Written imports
An import that binds names, as it may be written: what it binds (`ImportClause`), the module behind it
(`ModuleSource`), and the white space between any two of its tokens, which is there where two words meet. Every
part carries the proof that it is well formed, so each written import is one. Its text is read back as what was
written (`WrittenImport.readImport_text`), and the statement for it binds the same names in their order
(`WrittenImport.statement_declaration`). -/

namespace Marginalia.Preparation

open Text

/-! ## Tokens -/

/-- White space between two tokens. -/
structure Gap where
  /-- The white space. -/
  text : List Char
  /-- It is white space. -/
  blank : Blank text

/-- White space between two words. -/
structure WordGap extends Gap where
  /-- There is some. -/
  something : text ≠ []

/-- The name of a binding. -/
structure BindingName where
  /-- The name. -/
  text : List Char
  /-- It is one. -/
  isName : isName text = true

/-- A name for the default export: one that is not taken for another word at its place. -/
structure DefaultName extends BindingName where
  /-- It is not the word that announces the module. -/
  notFrom : text ≠ fromWord
  /-- It is not the word that announces imports of types. -/
  notType : text ≠ "type".toList
  /-- It is not that word with more behind it that ends the word. -/
  notTypeFront : ¬ "type$".toList <+: text

/-- An entry of the named imports. -/
inductive Specifier where
  /-- No name. -/
  | blank (gap : Gap)
  /-- A name that stays. -/
  | same (before : Gap) (name : BindingName) (behind : Gap)
  /-- A name and the one that it gets. -/
  | renamed (before : Gap) (name : BindingName) (beforeAs behindAs : WordGap) (newName : BindingName) (behind : Gap)

/-- What an import binds besides the default export. -/
inductive Bindings where
  /-- Named imports between braces. -/
  | named (specifiers : List Specifier) (behind : Gap)
  /-- The whole module. -/
  | whole (beforeAs : Gap) (behindAs : WordGap) (name : BindingName) (behind : WordGap)

/-- What stands between the keyword and the word that announces the module. -/
inductive ImportClause where
  /-- The default export. -/
  | default (before : WordGap) (name : DefaultName) (behind : WordGap)
  /-- Other bindings. -/
  | others (before : Gap) (bindings : Bindings)
  /-- The default export and other bindings. -/
  | both (before : WordGap) (name : DefaultName) (beforeComma behindComma : Gap) (bindings : Bindings)

/-- The module of an import, between quotes of one kind. -/
structure ModuleSource where
  /-- The white space in front of the opening quote. -/
  gap : Gap
  /-- The quotation mark. -/
  quote : Char
  /-- The module. -/
  moduleName : List Char
  /-- The quotation mark is one. -/
  quoted : isQuote quote = true
  /-- A module is named. -/
  something : moduleName ≠ []
  /-- The module is named within the quotes and the line. -/
  inside : ∀ c ∈ moduleName, isModuleChar c = true

/-- An import that binds names. -/
structure WrittenImport where
  /-- What it binds. -/
  clause : ImportClause
  /-- Its module. -/
  source : ModuleSource

/-- The text of an entry of the named imports. -/
def Specifier.text : Specifier → List Char
  | .blank gap => gap.text
  | .same before name behind => before.text ++ (name.text ++ behind.text)
  | .renamed before name beforeAs behindAs newName behind =>
    before.text ++ (name.text ++ (beforeAs.text ++ ("as".toList ++ (behindAs.text ++ (newName.text ++ behind.text)))))

/-- The text between the braces of the named imports. -/
def clauseText (specifiers : List Specifier) : List Char := [','].intercalate (specifiers.map Specifier.text)

/-- The text of the bindings besides the default export. -/
def Bindings.text : Bindings → List Char
  | .named specifiers behind => '{' :: (clauseText specifiers ++ '}' :: behind.text)
  | .whole beforeAs behindAs name behind =>
    '*' :: (beforeAs.text ++ ("as".toList ++ (behindAs.text ++ (name.text ++ behind.text))))

/-- The text between the keyword and the word that announces the module. -/
def ImportClause.text : ImportClause → List Char
  | .default before name behind => before.text ++ (name.text ++ behind.text)
  | .others before bindings => before.text ++ bindings.text
  | .both before name beforeComma behindComma bindings =>
    before.text ++ (name.text ++ (beforeComma.text ++ ',' :: (behindComma.text ++ bindings.text)))

/-- The text of a module, with the word that announces it. -/
def ModuleSource.text (source : ModuleSource) : List Char :=
  fromWord ++ (source.gap.text ++ source.quote :: (source.moduleName ++ [source.quote]))

/-- The text of an import. -/
def WrittenImport.text (written : WrittenImport) : List Char :=
  "import".toList ++ (written.clause.text ++ written.source.text)

/-! ## The statement that is wanted -/

/-- The binding that an entry asks for. -/
def Specifier.binding? : Specifier → Option (List Char)
  | .blank _ => none
  | .same _ name _ => some name.text
  | .renamed _ name _ _ newName _ => some (name.text ++ ": ".toList ++ newName.text)

/-- The binding of the default export. -/
def DefaultName.binding (name : DefaultName) : List Char := "default: ".toList ++ name.text

/-- The statement that takes bindings out of a module that is called; without bindings, the call alone. -/
def takingStatement (bindings : List (List Char)) (call : List Char) : List Char :=
  match bindings with
  | [] => call
  | bindings => "const \x7b ".toList ++ ", ".toList.intercalate bindings ++ " \x7d = ".toList ++ call

/-- The statement for an import. -/
def WrittenImport.statement (written : WrittenImport) : List Char :=
  let call := "require('".toList ++ written.source.moduleName ++ "')".toList
  match written.clause with
  | .default _ name _ => takingStatement [name.binding] call
  | .others _ (.named specifiers _) => takingStatement (specifiers.filterMap Specifier.binding?) call
  | .others _ (.whole _ _ name _) => "const ".toList ++ name.text ++ " = ".toList ++ call
  | .both _ default _ _ (.named specifiers _) =>
    takingStatement (default.binding :: specifiers.filterMap Specifier.binding?) call
  | .both _ default _ _ (.whole _ _ name _) =>
    "const ".toList ++ name.text ++ " = ".toList ++ call ++ ", \x7b ".toList ++ default.binding ++
      " \x7d = ".toList ++ name.text

/-! ## Characters at the ends of tokens -/

/-- A name is one character or more, of which the first may start a name. -/
theorem BindingName.exists_cons (name : BindingName) :
    ∃ first others, name.text = first :: others ∧ isNameStart first = true ∧
      ∀ c ∈ others, isNamePart c = true := by
  have isName := name.isName
  cases text : name.text with
  | nil =>
    rw [text] at isName
    cases isName
  | cons first others =>
    rw [text] at isName
    obtain ⟨start, parts⟩ := Bool.and_eq_true_iff.mp isName
    exact ⟨first, others, rfl, start, List.all_eq_true.mp parts⟩

theorem BindingName.isNamePart_of_mem (name : BindingName) : ∀ c ∈ name.text, isNamePart c = true := by
  obtain ⟨first, others, parts, start, all⟩ := name.exists_cons
  rw [parts]
  exact List.forall_mem_cons.mpr ⟨isNamePart_of_isNameStart start, all⟩

/-- The characters of a name are no white space. -/
theorem BindingName.solid (name : BindingName) : ∀ c ∈ name.text, isBlank c = false :=
  fun c member => isBlank_of_isNamePart (name.isNamePart_of_mem c member)

/-- White space in front of another character is skipped. -/
theorem Gap.skipBlanks_append (gap : Gap) {c : Char} (solid : isBlank c = false) (rest : List Char) :
    skipBlanks (gap.text ++ c :: rest) = c :: rest :=
  (skipBlanks_eq_cons_iff solid).mpr ⟨gap.text, gap.blank, rfl⟩

/-- White space in front of a name is skipped. -/
theorem Gap.skipBlanks_name (gap : Gap) (name : BindingName) (rest : List Char) :
    skipBlanks (gap.text ++ (name.text ++ rest)) = name.text ++ rest := by
  obtain ⟨first, others, parts, -, -⟩ := name.exists_cons
  have solid : isBlank first = false := name.solid first (by rw [parts]; exact List.mem_cons_self)
  rw [parts, List.cons_append]
  exact gap.skipBlanks_append solid _

/-- A name ends where white space starts, or at the character behind it. -/
theorem Gap.exists_cons_append (gap : Gap) {c : Char} (stop : isNamePart c = false) (rest : List Char) :
    ∃ d others, gap.text ++ c :: rest = d :: others ∧ isNamePart d = false := by
  have blank := gap.blank
  cases text : gap.text with
  | nil => exact ⟨c, rest, rfl, stop⟩
  | cons d others =>
    rw [text] at blank
    exact ⟨d, others ++ c :: rest, rfl, isNamePart_of_isBlank (blank d List.mem_cons_self)⟩

/-- Behind white space between two words stands a blank. -/
theorem WordGap.exists_append (gap : WordGap) (rest : List Char) :
    ∃ d others, gap.text ++ rest = d :: others ∧ isBlank d = true := by
  obtain ⟨d, others, text⟩ := List.exists_cons_of_ne_nil gap.something
  have blank := gap.blank
  rw [text] at blank ⊢
  exact ⟨d, others ++ rest, rfl, blank d List.mem_cons_self⟩

/-! ## Reading the module -/

/-- A module is read between its quotes. -/
theorem readModule_quoted {quote : Char} (quoted : isQuote quote = true) {name : List Char} (something : name ≠ [])
    (inside : ∀ c ∈ name, isModuleChar c = true) (after : List Char) :
    readModule (quote :: (name ++ quote :: after)) = some (name, after) := by
  have stop : isModuleChar quote = false := by simp [isModuleChar, quoted]
  obtain ⟨first, others, rfl⟩ := List.exists_cons_of_ne_nil something
  rw [readModule, if_pos quoted, spanOf_append_cons inside stop]
  exact if_pos rfl

/-- The text of a module starts with a letter. -/
theorem ModuleSource.exists_append (source : ModuleSource) (after : List Char) :
    ∃ rest, source.text ++ after = 'f' :: rest := ⟨_, rfl⟩

/-- A module is read with the word that announces it. -/
theorem ModuleSource.readFrom_append (source : ModuleSource) (after : List Char) :
    readFrom (source.text ++ after) = some (source.moduleName, after) := by
  have opened : expect fromWord (source.text ++ after) =
      some (source.gap.text ++ source.quote :: (source.moduleName ++ source.quote :: after)) :=
    expect_eq_some_iff.mpr (by simp [text])
  rw [readFrom, opened, Option.bind_eq_bind, Option.bind_some,
    source.gap.skipBlanks_append (isBlank_of_isQuote source.quoted)]
  exact readModule_quoted source.quoted source.something source.inside after

/-- White space in front of the word that announces a module is skipped. -/
theorem Gap.skipBlanks_source (gap : Gap) (source : ModuleSource) (after : List Char) :
    skipBlanks (gap.text ++ (source.text ++ after)) = source.text ++ after := by
  obtain ⟨rest, front⟩ := source.exists_append after
  rw [front]
  exact gap.skipBlanks_append (by decide) rest

/-- Without named imports, the module ends a declaration. -/
theorem ModuleSource.readClauseTail_append (source : ModuleSource) (default whole : Option (List Char))
    (after : List Char) :
    readClauseTail default whole (source.text ++ after) =
      some (⟨default, whole, none, source.moduleName⟩, after) := by
  have read := source.readFrom_append after
  obtain ⟨rest, front⟩ := source.exists_append after
  rw [front] at read ⊢
  have noBrace : readClauseTail default whole ('f' :: rest) =
      (readFrom ('f' :: rest)).map fun found => (⟨default, whole, none, found.1⟩, found.2) := rfl
  rw [noBrace, read]
  rfl

/-! ## Reading the bindings -/

/-- An entry of the named imports holds no comma and no brace. -/
theorem Specifier.not_mem_text {c : Char} (notBlank : isBlank c = false) (notName : isNamePart c = false)
    (specifier : Specifier) : c ∉ specifier.text := by
  have noPart {word : List Char} (parts : ∀ d ∈ word, isNamePart d = true) : c ∉ word := by
    intro member
    rw [parts c member] at notName
    cases notName
  have word : c ∉ "as".toList := noPart (List.all_eq_true.mp (by decide))
  have gap (gap : Gap) : c ∉ gap.text := gap.blank.not_mem notBlank
  have name (name : BindingName) : c ∉ name.text := noPart name.isNamePart_of_mem
  cases specifier with
  | blank only => exact gap only
  | same before own behind => simp only [text, List.mem_append, gap, name, or_self, not_false_eq_true]
  | renamed before own beforeAs behindAs newName behind =>
    simp only [text, List.mem_append, gap, name, word, or_self, not_false_eq_true]

/-- The text between the braces holds no braces. -/
theorem not_mem_clauseText {c : Char} (notBlank : isBlank c = false) (notName : isNamePart c = false)
    (notComma : c ≠ ',') (specifiers : List Specifier) : c ∉ clauseText specifiers := by
  refine not_mem_intercalate (mt List.mem_singleton.mp notComma) fun text known => ?_
  obtain ⟨specifier, -, rfl⟩ := List.mem_map.mp known
  exact specifier.not_mem_text notBlank notName

namespace Bindings

/-- The name that is bound to the whole module. -/
def namespaceName : Bindings → Option (List Char)
  | .named _ _ => none
  | .whole _ _ name _ => some name.text

/-- The text between the braces of the named imports. -/
def clause : Bindings → Option (List Char)
  | .named specifiers _ => some (clauseText specifiers)
  | .whole _ _ _ _ => none

end Bindings

/-- A name is read up to a character that no name holds. -/
theorem BindingName.readName_append (name : BindingName) {c : Char} (stop : isNamePart c = false)
    (rest : List Char) : readName (name.text ++ c :: rest) = some (name.text, c :: rest) := by
  obtain ⟨first, others, parts, start, all⟩ := name.exists_cons
  obtain ⟨inside, outside⟩ := Prod.mk.inj (spanOf_append_cons all stop rest)
  rw [parts, List.cons_append, readName, if_pos start, inside, outside]

/-- The name of the whole module is read behind its word. -/
theorem readNamespaceName_append (beforeAs : Gap) (behindAs : WordGap) (name : BindingName) {c : Char}
    (stop : isNamePart c = false) (rest : List Char) :
    readNamespaceName (beforeAs.text ++ ("as".toList ++ (behindAs.text ++ (name.text ++ c :: rest)))) =
      some (name.text, c :: rest) := by
  have word : skipBlanks (beforeAs.text ++ ("as".toList ++ (behindAs.text ++ (name.text ++ c :: rest)))) =
      "as".toList ++ (behindAs.text ++ (name.text ++ c :: rest)) := beforeAs.skipBlanks_append (by decide) _
  have opened : expect "as".toList ("as".toList ++ (behindAs.text ++ (name.text ++ c :: rest))) =
      some (behindAs.text ++ (name.text ++ c :: rest)) := expect_eq_some_iff.mpr rfl
  have shorter : (name.text ++ c :: rest).length < (behindAs.text ++ (name.text ++ c :: rest)).length := by
    have some := List.length_pos_iff.mpr behindAs.something
    simp only [List.length_append]
    omega
  rw [readNamespaceName, word, opened, Option.bind_eq_bind, Option.bind_some, behindAs.skipBlanks_name,
    if_pos shorter, name.readName_append stop]

/-- Other bindings are read with the module behind them. -/
theorem Bindings.readNamespaceTail_append (bindings : Bindings) (default : Option (List Char))
    (source : ModuleSource) (after : List Char) :
    readNamespaceTail default (bindings.text ++ (source.text ++ after)) =
      some (⟨default, bindings.namespaceName, bindings.clause, source.moduleName⟩, after) := by
  cases bindings with
  | named specifiers behind =>
    have whole : (Bindings.named specifiers behind).text ++ (source.text ++ after) =
        '{' :: (clauseText specifiers ++ '}' :: (behind.text ++ (source.text ++ after))) := by simp [text]
    have noBrace : ∀ c ∈ clauseText specifiers, (c != '{' && c != '}') = true := by
      intro c member
      have opening : c ≠ '{' := fun same =>
        not_mem_clauseText (by decide) (by decide) (by decide) specifiers (same ▸ member)
      have closing : c ≠ '}' := fun same =>
        not_mem_clauseText (by decide) (by decide) (by decide) specifiers (same ▸ member)
      simp [opening, closing]
    have noStar (rest : List Char) :
        readNamespaceTail default ('{' :: rest) = readClauseTail default none ('{' :: rest) := rfl
    rw [whole, noStar, readClauseTail, spanOf_append_cons noBrace (by decide)]
    simp only [behind.skipBlanks_source, source.readFrom_append, Option.map_some]
    rfl
  | whole beforeAs behindAs name behind =>
    have whole : (Bindings.whole beforeAs behindAs name behind).text ++ (source.text ++ after) =
        '*' :: (beforeAs.text ++ ("as".toList ++ (behindAs.text ++
          (name.text ++ (behind.text ++ (source.text ++ after)))))) := by simp [text]
    obtain ⟨d, rest, behindName, blank⟩ := behind.exists_append (source.text ++ after)
    have read := readNamespaceName_append beforeAs behindAs name (isNamePart_of_isBlank blank) rest
    rw [← behindName] at read
    rw [whole, readNamespaceTail, read, Option.bind_eq_bind, Option.bind_some]
    dsimp only
    rw [behind.skipBlanks_source, source.readClauseTail_append]
    rfl

/-! ## Reading the clause -/

/-- A name for the default export does not announce imports of types. -/
theorem DefaultName.startsWithType_append (name : DefaultName) {c : Char} (stop : isNamePart c = false)
    (rest : List Char) : startsWithType (name.text ++ c :: rest) = false := by
  rw [startsWithType]
  cases opened : expect "type".toList (name.text ++ c :: rest) with
  | none => rfl
  | some after =>
    -- The word is a beginning of the name, and the character behind it tells the two apart.
    have parts := expect_eq_some_iff.mp opened
    obtain ⟨front, behind⟩ : "type".toList <+: name.text := by
      refine prefix_of_prefix_append_cons (c := c) (fun member => ?_) ⟨after, parts.symm⟩
      have all : ∀ d ∈ "type".toList, isNamePart d = true := List.all_eq_true.mp (by decide)
      rw [all c member] at stop
      cases stop
    cases front with
    | nil => exact absurd behind.symm name.notType
    | cons d front =>
      have isPart := name.isNamePart_of_mem d (by rw [← behind]; simp)
      have same : after = d :: (front ++ c :: rest) := by
        rw [← behind, List.append_assoc] at parts
        exact (List.append_cancel_left parts).symm
      have notDollar : d ≠ '$' := by
        rintro rfl
        exact name.notTypeFront ⟨front, by rw [← behind]; rfl⟩
      have word : isWord d = true := by simpa [isNamePart, notDollar] using isPart
      simp [same, word]

/-- The declaration that an import is read as. -/
def WrittenImport.declaration (written : WrittenImport) : ImportDeclaration :=
  match written.clause with
  | .default _ name _ => ⟨some name.text, none, none, written.source.moduleName⟩
  | .others _ bindings => ⟨none, bindings.namespaceName, bindings.clause, written.source.moduleName⟩
  | .both _ name _ _ bindings =>
    ⟨some name.text, bindings.namespaceName, bindings.clause, written.source.moduleName⟩

/-- Other bindings start with a brace or a star. -/
theorem Bindings.exists_append (bindings : Bindings) (after : List Char) :
    ∃ c rest, bindings.text ++ after = c :: rest ∧ (c = '{' ∨ c = '*') := by
  cases bindings with
  | named specifiers behind => exact ⟨'{', _, rfl, .inl rfl⟩
  | whole beforeAs behindAs name behind => exact ⟨'*', _, rfl, .inr rfl⟩

/-- White space in front of other bindings is skipped. -/
theorem Gap.skipBlanks_bindings (gap : Gap) (bindings : Bindings) (after : List Char) :
    skipBlanks (gap.text ++ (bindings.text ++ after)) = bindings.text ++ after := by
  obtain ⟨c, rest, front, rfl | rfl⟩ := bindings.exists_append after
  · rw [front]
    exact gap.skipBlanks_append (by decide) rest
  · rw [front]
    exact gap.skipBlanks_append (by decide) rest

/-- A name for the default export is read with the module behind it. -/
theorem DefaultName.readDefaultFirst_source (name : DefaultName) (behind : WordGap) (source : ModuleSource)
    (after : List Char) :
    readDefaultFirst (name.text ++ (behind.text ++ (source.text ++ after))) =
      some (⟨some name.text, none, none, source.moduleName⟩, after) := by
  obtain ⟨d, rest, behindName, blank⟩ := behind.exists_append (source.text ++ after)
  have read := name.readName_append (isNamePart_of_isBlank blank) rest
  rw [← behindName] at read
  have noComma : skipBlanks (skipComma (source.text ++ after)) = source.text ++ after := by
    obtain ⟨rest, front⟩ := source.exists_append after
    rw [front]
    rfl
  have noStar : readNamespaceTail (some name.text) (source.text ++ after) =
      readClauseTail (some name.text) none (source.text ++ after) := by
    obtain ⟨rest, front⟩ := source.exists_append after
    rw [front]
    rfl
  rw [readDefaultFirst, read, Option.bind_eq_bind, Option.bind_some]
  dsimp only
  rw [behind.skipBlanks_source, noComma, noStar, source.readClauseTail_append]
  rfl

/-- A name for the default export is read with the other bindings behind the comma. -/
theorem DefaultName.readDefaultFirst_bindings (name : DefaultName) (beforeComma behindComma : Gap)
    (bindings : Bindings) (source : ModuleSource) (after : List Char) :
    readDefaultFirst (name.text ++ (beforeComma.text ++ ',' :: (behindComma.text ++
        (bindings.text ++ (source.text ++ after))))) =
      some (⟨some name.text, bindings.namespaceName, bindings.clause, source.moduleName⟩, after) := by
  obtain ⟨d, rest, behindName, stop⟩ := beforeComma.exists_cons_append (c := ',') (by decide)
    (behindComma.text ++ (bindings.text ++ (source.text ++ after)))
  have read := name.readName_append stop rest
  rw [← behindName] at read
  rw [readDefaultFirst, read, Option.bind_eq_bind, Option.bind_some]
  dsimp only
  rw [beforeComma.skipBlanks_append (by decide), skipComma, behindComma.skipBlanks_bindings,
    bindings.readNamespaceTail_append]
  rfl

/-- Other bindings bind no default export. -/
theorem Bindings.readDefaultFirst_append (bindings : Bindings) (after : List Char) :
    readDefaultFirst (bindings.text ++ after) = none := by
  obtain ⟨c, rest, front, rfl | rfl⟩ := bindings.exists_append after
  · rw [front]
    rfl
  · rw [front]
    rfl

/-- Other bindings do not announce imports of types. -/
theorem Bindings.startsWithType_append (bindings : Bindings) (after : List Char) :
    startsWithType (bindings.text ++ after) = false := by
  obtain ⟨c, rest, front, rfl | rfl⟩ := bindings.exists_append after
  · rw [front]
    rfl
  · rw [front]
    rfl

/-- Behind the keyword a declaration goes on. -/
theorem ImportClause.opensDeclaration_append (clause : ImportClause) (after : List Char) :
    opensDeclaration (clause.text ++ after) = true := by
  have blank (gap : WordGap) (rest : List Char) : opensDeclaration (gap.text ++ rest) = true := by
    obtain ⟨d, others, front, blank⟩ := gap.exists_append rest
    simp [opensDeclaration, front, blank]
  cases clause with
  | default before name behind =>
    rw [text, List.append_assoc]
    exact blank before _
  | both before name beforeComma behindComma bindings =>
    rw [text, List.append_assoc]
    exact blank before _
  | others before bindings =>
    rw [text, List.append_assoc]
    have isBlank := before.blank
    cases front : before.text with
    | nil =>
      obtain ⟨c, rest, starts, rfl | rfl⟩ := bindings.exists_append after
      · rw [List.nil_append, starts]
        rfl
      · rw [List.nil_append, starts]
        rfl
    | cons d others =>
      rw [front] at isBlank
      simp [opensDeclaration, isBlank d List.mem_cons_self]

/-- **An import is read as it was written,** whatever stands behind it, where a keyword may start. -/
theorem WrittenImport.readImport_append (written : WrittenImport) {before : Option Char}
    (starts : mayStartKeyword before = true) (after : List Char) :
    readImport before (written.text ++ after) = some (written.declaration, after) := by
  obtain ⟨clause, source⟩ := written
  have whole : WrittenImport.text ⟨clause, source⟩ ++ after =
      "import".toList ++ (clause.text ++ (source.text ++ after)) := by
    show ("import".toList ++ (clause.text ++ source.text)) ++ after = _
    rw [List.append_assoc, List.append_assoc]
  have opened : expect "import".toList ("import".toList ++ (clause.text ++ (source.text ++ after))) =
      some (clause.text ++ (source.text ++ after)) := expect_eq_some_iff.mpr rfl
  rw [whole, readImport, if_pos starts, opened, Option.bind_eq_bind, Option.bind_some,
    if_pos (clause.opensDeclaration_append _)]
  cases clause with
  | default gap name behind =>
    obtain ⟨d, rest, behindName, blank⟩ := behind.exists_append (source.text ++ after)
    have noType := name.startsWithType_append (isNamePart_of_isBlank blank) rest
    rw [← behindName] at noType
    simp only [ImportClause.text, List.append_assoc, gap.skipBlanks_name, noType, Bool.false_eq_true, if_false,
      name.readDefaultFirst_source]
    rfl
  | others gap bindings =>
    simp only [ImportClause.text, List.append_assoc, gap.skipBlanks_bindings, bindings.startsWithType_append,
      Bool.false_eq_true, if_false, bindings.readDefaultFirst_append, bindings.readNamespaceTail_append]
    rfl
  | both gap name beforeComma behindComma bindings =>
    obtain ⟨d, rest, behindName, stop⟩ := beforeComma.exists_cons_append (c := ',') (by decide)
      (behindComma.text ++ (bindings.text ++ (source.text ++ after)))
    have noType := name.startsWithType_append stop rest
    rw [← behindName] at noType
    simp only [ImportClause.text, List.append_assoc, List.cons_append, gap.skipBlanks_name, noType,
      Bool.false_eq_true, if_false, name.readDefaultFirst_bindings]
    rfl

/-! ## Cutting the clause -/

/-- A text without the separator is one part. -/
theorem splitAtChar_of_not_mem {separator : Char} {text : List Char} (absent : separator ∉ text) :
    splitAtChar separator text = [text] := by
  induction text with
  | nil => rfl
  | cons c text ih =>
    obtain ⟨different, others⟩ := List.ne_and_not_mem_of_not_mem_cons absent
    rw [splitAtChar, if_neg (Ne.symm different), ih others, consHead_cons]

/-- The first part of a text ends at the first separator. -/
theorem splitAtChar_append_cons {separator : Char} {first : List Char} (absent : separator ∉ first)
    (rest : List Char) :
    splitAtChar separator (first ++ separator :: rest) = first :: splitAtChar separator rest := by
  induction first with
  | nil => exact if_pos rfl
  | cons c first ih =>
    obtain ⟨different, others⟩ := List.ne_and_not_mem_of_not_mem_cons absent
    rw [List.cons_append, splitAtChar, if_neg (Ne.symm different), ih others, consHead_cons]

/-- Texts that are joined with a separator are its parts. -/
theorem splitAtChar_intercalate {separator : Char} {texts : List (List Char)} (some : texts ≠ [])
    (absent : ∀ text ∈ texts, separator ∉ text) :
    splitAtChar separator ([separator].intercalate texts) = texts := by
  induction texts with
  | nil => exact absurd rfl some
  | cons first texts ih =>
    obtain ⟨inFirst, others⟩ := List.forall_mem_cons.mp absent
    by_cases last : texts = []
    · rw [last, List.intercalate_singleton, splitAtChar_of_not_mem inFirst]
    · rw [List.intercalate_cons_of_ne_nil last, List.append_assoc, List.singleton_append,
        splitAtChar_append_cons inFirst, ih last others]

/-- A name is one word. -/
theorem BindingName.words_text (name : BindingName) : words name.text = [name.text] := by
  obtain ⟨first, others, parts, -, -⟩ := name.exists_cons
  exact words_of_solid (parts ▸ List.cons_ne_nil first others) name.solid

/-- White space between two words keeps them apart. -/
theorem WordGap.words_append (gap : WordGap) (left right : List Char) :
    words (left ++ (gap.text ++ right)) = words left ++ words right := by
  obtain ⟨c, blanks, text⟩ := List.exists_cons_of_ne_nil gap.something
  have blank := gap.blank
  rw [text] at blank ⊢
  obtain ⟨isFirst, others⟩ := List.forall_mem_cons.mp blank
  rw [List.cons_append, words_append_cons isFirst, Blank.words_append others]

/-- An entry of the named imports has no words and asks for no binding, or it asks for the binding that its
words spell. -/
theorem Specifier.binding?_eq (specifier : Specifier) :
    specifier.binding? = if words specifier.text = [] then none else some (bindingOf (words specifier.text)) := by
  cases specifier with
  | blank gap => rw [text, gap.blank.words_eq_nil, if_pos rfl, binding?]
  | same before name behind =>
    rw [text, before.blank.words_append, behind.blank.append_words, name.words_text, if_neg (List.cons_ne_nil _ _)]
    exact congrArg some (List.intercalate_singleton).symm
  | renamed before name beforeAs behindAs newName behind =>
    have isAs : words "as".toList = ["as".toList] := rfl
    have entry : bindingOf [name.text, "as".toList, newName.text] = name.text ++ ": ".toList ++ newName.text :=
      if_pos (by rw [name.isName, newName.isName]; rfl)
    rw [text, before.blank.words_append, beforeAs.words_append, behindAs.words_append, behind.blank.append_words,
      name.words_text, newName.words_text, isAs]
    exact congrArg some entry.symm

/-- The bindings for the named imports are those that the entries ask for. -/
theorem bracedBindings_clauseText (specifiers : List Specifier) :
    bracedBindings (clauseText specifiers) = specifiers.filterMap Specifier.binding? := by
  have parts : ((splitAtChar ',' (clauseText specifiers)).map words).filter (· ≠ []) =
      (specifiers.map fun specifier => words specifier.text).filter (· ≠ []) := by
    by_cases none : specifiers = []
    · rw [none]
      rfl
    · have noComma : ∀ text ∈ specifiers.map Specifier.text, ',' ∉ text := by
        intro text known
        obtain ⟨specifier, -, rfl⟩ := List.mem_map.mp known
        exact specifier.not_mem_text (by decide) (by decide)
      rw [clauseText, splitAtChar_intercalate (mt List.map_eq_nil_iff.mp none) noComma, List.map_map]
      rfl
  rw [bracedBindings, parts]
  clear parts
  induction specifiers with
  | nil => rfl
  | cons specifier specifiers ih =>
    rw [List.filterMap_cons, Specifier.binding?_eq, List.map_cons]
    by_cases none : words specifier.text = []
    · rw [List.filter_cons_of_neg (by simpa using none), if_pos none, ih]
    · rw [List.filter_cons_of_pos (by simpa using none), if_neg none, List.map_cons, ih]

/-! ## The statement -/

/-- A declaration without a name for the whole module takes its bindings out of the module. -/
theorem ImportDeclaration.statement_of_none (default clause : Option (List Char)) (moduleName : List Char) :
    statement ⟨default, none, clause, moduleName⟩ =
      takingStatement (bindings ⟨default, none, clause, moduleName⟩) (requireCall moduleName) := by
  have opening : "const \x7b ".toList = "const ".toList ++ "\x7b ".toList := rfl
  have closing : " \x7d = ".toList = " \x7d".toList ++ " = ".toList := rfl
  rw [statement]
  cases bindings ⟨default, none, clause, moduleName⟩ with
  | nil => rfl
  | cons binding others =>
    rw [takingStatement, opening, closing]
    · simp only [bindingPattern, List.append_assoc]
    · exact List.cons_ne_nil binding others

/-- A declaration that binds the whole module and the default export takes the latter out of the former. -/
theorem ImportDeclaration.statement_of_both (default name moduleName : List Char) :
    statement ⟨some default, some name, none, moduleName⟩ =
      "const ".toList ++ name ++ " = ".toList ++ requireCall moduleName ++ ", \x7b ".toList ++
        ("default: ".toList ++ default) ++ " \x7d = ".toList ++ name := by
  have opening : ", \x7b ".toList = ", ".toList ++ "\x7b ".toList := rfl
  have closing : " \x7d = ".toList = " \x7d".toList ++ " = ".toList := rfl
  have only : bindings ⟨some default, some name, none, moduleName⟩ = ["default: ".toList ++ default] := rfl
  rw [statement, only, opening, closing]
  simp only [bindingPattern, List.intercalate_singleton, List.append_assoc]

/-- **The statement for an import** is the one that is wanted. -/
theorem WrittenImport.statement_declaration (written : WrittenImport) :
    written.declaration.statement = written.statement := by
  obtain ⟨clause, source⟩ := written
  -- The bindings of the named imports, behind that of the default export.
  have named (default : Option (List Char)) (specifiers : List Specifier) :
      ImportDeclaration.bindings ⟨default, none, some (clauseText specifiers), source.moduleName⟩ =
        (default.map ("default: ".toList ++ ·)).toList ++ specifiers.filterMap Specifier.binding? := by
    rw [← bracedBindings_clauseText]
    rfl
  cases clause with
  | default gap name behind => exact ImportDeclaration.statement_of_none _ _ _
  | others gap bindings =>
    cases bindings with
    | named specifiers behind =>
      have taken := ImportDeclaration.statement_of_none none (some (clauseText specifiers)) source.moduleName
      rw [named] at taken
      exact taken
    | whole beforeAs behindAs name behind => rfl
  | both gap name beforeComma behindComma bindings =>
    cases bindings with
    | named specifiers behind =>
      have taken :=
        ImportDeclaration.statement_of_none (some name.text) (some (clauseText specifiers)) source.moduleName
      rw [named] at taken
      exact taken
    | whole beforeAs behindAs wholeName behind => exact ImportDeclaration.statement_of_both _ _ _

/-- No import asks for nothing but a default export of the name that announces the module. -/
theorem WrittenImport.isFromOnly_declaration (written : WrittenImport) :
    written.declaration.isFromOnly = false := by
  have named (name : DefaultName) : (some name.text == some fromWord) = false :=
    beq_eq_false_iff_ne.mpr fun same => name.notFrom (Option.some.inj same)
  obtain ⟨clause, source⟩ := written
  cases clause with
  | default gap name behind => simp [declaration, ImportDeclaration.isFromOnly, named]
  | others gap bindings => rfl
  | both gap name beforeComma behindComma bindings => simp [declaration, ImportDeclaration.isFromOnly, named]

end Marginalia.Preparation
