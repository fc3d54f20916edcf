import Marginalia.Proofs.Preparation.Importing
import Marginalia.Proofs.Preparation.ModulePaths

/-! # Line feeds
What the first two stages of the preparation do to the line feeds of a text. Both replace constructs, so the
line feeds that are lost are those that the replacements lose (`lineFeeds_shown`). An import that binds names
gives back every line feed that it was written over (`lineFeeds_boundImports`). One that binds nothing loses
those between its keyword and its module, and a call that is pointed at a path loses those around its
parentheses; nothing else is lost, and nothing is added. -/

namespace Marginalia.Text

variable {α : Type}

/-! ## Replacements that lose line feeds -/

/-- What is lost at a piece, when nothing is lost at a character that stands alone. -/
def Piece.loss (lost : List Char → α → Nat) : Piece α → Nat
  | .char _ => 0
  | .construct written value => lost written value

@[simp] theorem Piece.loss_char (lost : List Char → α → Nat) (c : Char) :
    (Piece.char c).loss lost = 0 := rfl

@[simp] theorem Piece.loss_construct (lost : List Char → α → Nat) (written : List Char) (value : α) :
    (Piece.construct written value).loss lost = lost written value := rfl

/-- What is lost at some pieces. -/
def losses (lost : List Char → α → Nat) (pieces : List (Piece α)) : Nat :=
  total (pieces.map (Piece.loss lost))

@[simp] theorem losses_nil (lost : List Char → α → Nat) : losses lost [] = 0 := rfl

@[simp] theorem losses_cons (lost : List Char → α → Nat) (piece : Piece α) (pieces : List (Piece α)) :
    losses lost (piece :: pieces) = piece.loss lost + losses lost pieces := rfl

/-- Nothing is lost exactly if nothing is lost at any construct. -/
theorem losses_eq_zero_iff {lost : List Char → α → Nat} {pieces : List (Piece α)} :
    losses lost pieces = 0 ↔ ∀ written value, .construct written value ∈ pieces → lost written value = 0 := by
  induction pieces with
  | nil => exact iff_of_true rfl fun _ _ absent => absurd absent List.not_mem_nil
  | cons piece pieces ih =>
    rw [losses_cons, Nat.add_eq_zero_iff, ih]
    cases piece with
    | char c => simp
    | construct written value =>
      rw [Piece.loss_construct]
      constructor
      · rintro ⟨first, others⟩ text other member
        rcases List.mem_cons.mp member with same | later
        · cases same
          exact first
        · exact others text other later
      · exact fun all => ⟨all written value List.mem_cons_self,
          fun text other later => all text other (List.mem_cons_of_mem _ later)⟩

/-- A text has no line feeds exactly if it does not hold one. -/
theorem lineFeeds_eq_zero_iff {text : List Char} : lineFeeds text = 0 ↔ '\n' ∉ text := List.count_eq_zero

/-- The line feeds that are shown for some pieces and those that are lost at them are those of their text.
-/
theorem lineFeeds_shown {render : List Char → α → List Char} {lost : List Char → α → Nat}
    {pieces : List (Piece α)}
    (account : ∀ written value, .construct written value ∈ pieces →
      lineFeeds (render written value) + lost written value = lineFeeds written) :
    lineFeeds (pieces.flatMap (Piece.shown render)) + losses lost pieces =
      lineFeeds (pieces.flatMap Piece.text) := by
  induction pieces with
  | nil => rfl
  | cons piece pieces ih =>
    have others := ih fun written value member => account written value (List.mem_cons_of_mem piece member)
    have first : lineFeeds (piece.shown render) + piece.loss lost = lineFeeds piece.text := by
      cases piece with
      | char c => rfl
      | construct written value => exact account written value List.mem_cons_self
    rw [List.flatMap_cons, List.flatMap_cons, lineFeeds_append, lineFeeds_append, losses_cons, ← others,
      ← first]
    omega

/-- No line feed is lost exactly if none is lost at any construct. -/
theorem lineFeeds_shown_eq_iff {render : List Char → α → List Char} {lost : List Char → α → Nat}
    {pieces : List (Piece α)}
    (account : ∀ written value, .construct written value ∈ pieces →
      lineFeeds (render written value) + lost written value = lineFeeds written) :
    lineFeeds (pieces.flatMap (Piece.shown render)) = lineFeeds (pieces.flatMap Piece.text) ↔
      ∀ written value, .construct written value ∈ pieces → lost written value = 0 := by
  rw [← losses_eq_zero_iff, ← lineFeeds_shown account]
  omega

end Marginalia.Text

namespace Marginalia.Preparation

open Text File

/-! ## Imports that bind names -/

/-- A declaration with names that are made of the characters of names, and a module that is made of those of
modules. -/
structure ImportDeclaration.Named (declaration : ImportDeclaration) : Prop where
  /-- The name bound to the default export. -/
  defaultName : ∀ name ∈ declaration.defaultName, ∀ c ∈ name, isNamePart c = true
  /-- The name bound to the whole module. -/
  namespaceName : ∀ name ∈ declaration.namespaceName, ∀ c ∈ name, isNamePart c = true
  /-- The module. -/
  moduleName : ∀ c ∈ declaration.moduleName, isModuleChar c = true

/-- A module that is read is made of the characters of modules. -/
theorem isModuleChar_of_readModule {text name after : List Char} (read : readModule text = some (name, after)) :
    ∀ c ∈ name, isModuleChar c = true := by
  obtain ⟨-, -, -, all, -⟩ := exists_of_readModule read
  exact all

theorem isModuleChar_of_readFrom {text name after : List Char} (read : readFrom text = some (name, after)) :
    ∀ c ∈ name, isModuleChar c = true := by
  obtain ⟨behind, -, read⟩ := Option.bind_eq_some_iff.mp read
  exact isModuleChar_of_readModule read

/-- A name without the word that is glued to its end is made of the same characters. -/
theorem subset_of_ungluedName {name front : List Char} (unglued : ungluedName name = some front) :
    front ⊆ name := by
  rw [ungluedName] at unglued
  split at unglued
  · cases unglued
    exact List.take_subset _ _
  · cases unglued

section Reading

variable {defaultName namespaceName : Option (List Char)} {text after : List Char}
  {declaration : ImportDeclaration}

/-- The end of a declaration from its named imports on. -/
theorem named_of_readClauseTail (default : ∀ name ∈ defaultName, ∀ c ∈ name, isNamePart c = true)
    (whole : ∀ name ∈ namespaceName, ∀ c ∈ name, isNamePart c = true)
    (read : readClauseTail defaultName namespaceName text = some (declaration, after)) :
    declaration.Named := by
  rw [readClauseTail.eq_def] at read
  split at read
  · split at read
    · obtain ⟨⟨name, rest⟩, named, same⟩ := Option.map_eq_some_iff.mp read
      cases same
      exact ⟨default, whole, isModuleChar_of_readFrom named⟩
    · cases read
  · obtain ⟨⟨name, rest⟩, named, same⟩ := Option.map_eq_some_iff.mp read
    cases same
    exact ⟨default, whole, isModuleChar_of_readFrom named⟩

/-- The end of a declaration from its binding of the whole module on. -/
theorem named_of_readNamespaceTail (default : ∀ name ∈ defaultName, ∀ c ∈ name, isNamePart c = true)
    (read : readNamespaceTail defaultName text = some (declaration, after)) : declaration.Named := by
  have single {name : List Char} (all : ∀ c ∈ name, isNamePart c = true) :
      ∀ other ∈ some name, ∀ c ∈ other, isNamePart c = true := by
    rintro other ⟨⟩
    exact all
  rw [readNamespaceTail.eq_def] at read
  split at read
  · obtain ⟨⟨name, rest⟩, named, read⟩ := Option.bind_eq_some_iff.mp read
    obtain ⟨all, -⟩ := exists_of_readNamespaceName named
    rcases Option.or_eq_some_iff.mp read with tail | ⟨-, glued⟩
    · exact named_of_readClauseTail default (single all) tail
    · -- The word before the module was glued to the name, which is shorter without it.
      obtain ⟨front, unglued, glued⟩ := Option.bind_eq_some_iff.mp glued
      obtain ⟨⟨moduleName, last⟩, moduleRead, same⟩ := Option.bind_eq_some_iff.mp glued
      cases same
      exact ⟨default, single (fun c inside => all c (subset_of_ungluedName unglued inside)),
        isModuleChar_of_readModule moduleRead⟩
  · exact named_of_readClauseTail default (fun name absent => by cases absent) read

/-- A declaration that binds the default export first. -/
theorem named_of_readDefaultFirst (read : readDefaultFirst text = some (declaration, after)) :
    declaration.Named := by
  obtain ⟨⟨name, rest⟩, named, read⟩ := Option.bind_eq_some_iff.mp read
  obtain ⟨-, all⟩ := exists_of_readName named
  rcases Option.or_eq_some_iff.mp read with tail | ⟨-, glued⟩
  · refine named_of_readNamespaceTail ?_ tail
    rintro other ⟨⟩
    exact all
  · obtain ⟨front, unglued, glued⟩ := Option.bind_eq_some_iff.mp glued
    obtain ⟨⟨moduleName, last⟩, moduleRead, same⟩ := Option.bind_eq_some_iff.mp glued
    cases same
    refine ⟨?_, (fun other absent => by cases absent), isModuleChar_of_readModule moduleRead⟩
    rintro other ⟨⟩
    exact fun c inside => all c (subset_of_ungluedName unglued inside)

/-- Every declaration that is read. -/
theorem named_of_readImport {before : Option Char} (read : readImport before text = some (declaration, after)) :
    declaration.Named := by
  rw [readImport] at read
  split at read
  · obtain ⟨behind, word, read⟩ := Option.bind_eq_some_iff.mp read
    split at read
    · dsimp only at read
      split at read
      · cases read
      · rcases Option.or_eq_some_iff.mp read with tail | ⟨-, tail⟩
        · exact named_of_readDefaultFirst tail
        · exact named_of_readNamespaceTail (fun other absent => by cases absent) tail
    · cases read
  · cases read

end Reading

/-! ## The statement for an import -/

theorem not_mem_of_isNamePart {name : List Char} (all : ∀ c ∈ name, isNamePart c = true) : '\n' ∉ name :=
  fun member => absurd (all '\n' member) (by decide)

theorem not_mem_of_isModuleChar {name : List Char} (all : ∀ c ∈ name, isModuleChar c = true) : '\n' ∉ name :=
  fun member => absurd (all '\n' member) (by decide)

/-- A call has no line feeds if the name of its module has none. -/
theorem not_mem_requireCall {name : List Char} (absent : '\n' ∉ name) : '\n' ∉ requireCall name := by
  have opening : '\n' ∉ "require('".toList := by decide
  have closing : '\n' ∉ "')".toList := by decide
  unfold requireCall
  simp only [List.mem_append, not_or]
  exact ⟨⟨opening, absent⟩, closing⟩

/-- A binding for an entry has no line feeds: the words of the entry have none. -/
theorem not_mem_bindingOf {entry : List (List Char)} (absent : ∀ word ∈ entry, '\n' ∉ word) :
    '\n' ∉ bindingOf entry := by
  have joined : '\n' ∉ [' '].intercalate entry := not_mem_intercalate (by decide) absent
  rw [bindingOf.eq_def]
  split
  · next name word newName =>
    split
    · have between : '\n' ∉ ": ".toList := by decide
      simp only [List.mem_append, not_or]
      exact ⟨⟨absent name (by simp), between⟩, absent newName (by simp)⟩
    · exact joined
  · exact joined

/-- No binding of a declaration has line feeds, however its clause is written. -/
theorem ImportDeclaration.Named.not_mem_bindings {declaration : ImportDeclaration} (named : declaration.Named)
    {binding : List Char} (known : binding ∈ declaration.bindings) : '\n' ∉ binding := by
  rcases List.mem_append.mp known with default | inClause
  · obtain ⟨name, given, rfl⟩ := Option.map_eq_some_iff.mp (Option.mem_toList.mp default)
    have opening : '\n' ∉ "default: ".toList := by decide
    rw [List.mem_append, not_or]
    exact ⟨opening, not_mem_of_isNamePart (named.defaultName name given)⟩
  · cases clause : declaration.clause with
    | none =>
      rw [clause] at inClause
      cases inClause
    | some clause =>
      rw [clause] at inClause
      -- The clause may be written over many lines, but each entry is cut into words first.
      obtain ⟨entry, kept, rfl⟩ := List.mem_map.mp inClause
      obtain ⟨part, -, rfl⟩ := List.mem_map.mp (List.mem_filter.mp kept).1
      refine not_mem_bindingOf fun word known inside => ?_
      exact absurd (isBlank_of_mem_words known inside) (by decide)

/-- A pattern has no line feeds if the bindings in it have none. -/
theorem not_mem_bindingPattern {bindings : List (List Char)} (absent : ∀ binding ∈ bindings, '\n' ∉ binding) :
    '\n' ∉ bindingPattern bindings := by
  have opening : '\n' ∉ "\x7b ".toList := by decide
  have closing : '\n' ∉ " \x7d".toList := by decide
  have joined : '\n' ∉ ", ".toList.intercalate bindings := not_mem_intercalate (by decide) absent
  simp only [bindingPattern, List.mem_append, not_or]
  exact ⟨⟨opening, joined⟩, closing⟩

/-- The statement for a declaration stands on one line. -/
theorem ImportDeclaration.Named.not_mem_statement {declaration : ImportDeclaration}
    (named : declaration.Named) : '\n' ∉ declaration.statement := by
  have call := not_mem_requireCall (not_mem_of_isModuleChar named.moduleName)
  have pattern := not_mem_bindingPattern fun binding known => named.not_mem_bindings known
  have const : '\n' ∉ "const ".toList := by decide
  have equals : '\n' ∉ " = ".toList := by decide
  have comma : '\n' ∉ ", ".toList := by decide
  rw [ImportDeclaration.statement.eq_def]
  cases whole : declaration.namespaceName with
  | none =>
    cases bindings : declaration.bindings with
    | nil => exact call
    | cons first others =>
      rw [bindings] at pattern
      simp only [List.mem_append, not_or]
      exact ⟨⟨⟨const, pattern⟩, equals⟩, call⟩
  | some name =>
    have inName := not_mem_of_isNamePart (named.namespaceName name whole)
    cases bindings : declaration.bindings with
    | nil =>
      simp only [List.mem_append, not_or]
      exact ⟨⟨⟨const, inName⟩, equals⟩, call⟩
    | cons first others =>
      rw [bindings] at pattern
      simp only [List.mem_append, not_or]
      exact ⟨⟨⟨⟨⟨⟨⟨const, inName⟩, equals⟩, call⟩, comma⟩, pattern⟩, equals⟩, inName⟩

/-- The text with every import that binds names turned into a statement. -/
def boundImports (text : List Char) : List Char := replace readImport renderImport text

/-- What an import that binds names is replaced by has the line feeds of the import. -/
theorem lineFeeds_renderImport {before : Option Char} {written after : List Char}
    {declaration : ImportDeclaration} (read : readImport before (written ++ after) = some (declaration, after)) :
    lineFeeds (renderImport written declaration) = lineFeeds written := by
  rw [renderImport]
  split
  · rfl
  · rw [lineFeeds_append, lineFeeds_eq_zero_iff.mpr (named_of_readImport read).not_mem_statement, Nat.zero_add]
    exact List.count_replicate_self

/-- **Imports that bind names keep the line feeds** of every text. -/
theorem lineFeeds_boundImports (text : List Char) : lineFeeds (boundImports text) = lineFeeds text := by
  have account : ∀ written declaration, .construct written declaration ∈ scan readImport none text →
      lineFeeds (renderImport written declaration) + (fun _ _ => 0) written declaration =
        lineFeeds written := by
    intro written declaration member
    obtain ⟨before, after, read⟩ := read_of_mem_scan readsFront_readImport member
    exact lineFeeds_renderImport read
  -- Nothing is lost at any declaration, so the account comes out even.
  have kept := (lineFeeds_shown_eq_iff account).mpr fun _ _ _ => rfl
  rwa [flatMap_text_scan] at kept

/-! ## Imports that bind nothing -/

/-- The texts that are read as an import that binds nothing. -/
def IsBareImport (name written : List Char) : Prop :=
  ∃ blanks quote, Blank blanks ∧ isQuote quote = true ∧ (∀ c ∈ name, isModuleChar c = true) ∧
    written = "import".toList ++ (blanks ++ quote :: (name ++ [quote]))

/-- What is read as an import that binds nothing is the text of one. -/
theorem isBareImport_of_read {before : Option Char} {written name after : List Char}
    (read : readBareImport before (written ++ after) = some (name, after)) : IsBareImport name written := by
  obtain ⟨-, -, all, blanks, quote, blank, isQuote, parts⟩ := exists_of_readBareImport read
  have whole : written ++ after = "import".toList ++ (blanks ++ quote :: (name ++ [quote])) ++ after := by
    rw [parts]
    simp
  exact ⟨blanks, quote, blank, isQuote, all, List.append_cancel_right whole⟩

/-- The call for an import that binds nothing has no line feeds. -/
theorem IsBareImport.not_mem_requireCall {name written : List Char} (isImport : IsBareImport name written) :
    '\n' ∉ requireCall name := by
  obtain ⟨-, -, -, -, all, -⟩ := isImport
  exact Preparation.not_mem_requireCall (not_mem_of_isModuleChar all)

/-! ## Calls that require modules -/

variable {tree : Tree} {context : Module.Context}

/-- The line feeds of a call, if it is pointed at the path of its module. -/
def lostFeeds (tree : Tree) (context : Module.Context) (written : List Char) (call : RequireCall) : Nat :=
  match Module.resolve tree context call.name with
  | .ok (some _) => lineFeeds written
  | _ => 0

/-- No line feeds are lost at a call exactly if it stays or stands on one line. -/
theorem lostFeeds_eq_zero_iff {written : List Char} {call : RequireCall} :
    lostFeeds tree context written call = 0 ↔
      ((∃ path, Module.resolve tree context call.name = .ok (some path)) → '\n' ∉ written) := by
  rw [lostFeeds]
  split
  · next path resolved => simp [resolved, lineFeeds_eq_zero_iff]
  · next other =>
    refine iff_of_true rfl ?_
    rintro ⟨path, resolved⟩
    exact absurd resolved (other path)

/-- Pieces can be pointed exactly if the module of every call among them can be looked up. -/
theorem resolvePieces_isOk_iff {pieces : List (Piece RequireCall)} :
    (∃ result, resolvePieces tree context pieces = .ok result) ↔
      ∀ written call, .construct written call ∈ pieces →
        ∃ found, Module.resolve tree context call.name = .ok found := by
  induction pieces with
  | nil => exact iff_of_true ⟨_, rfl⟩ fun _ _ absent => absurd absent List.not_mem_nil
  | cons piece pieces ih =>
    constructor
    · rintro ⟨⟨pointed, logs⟩, done⟩ written call member
      obtain ⟨first, rest, others, later, -⟩ := exists_of_resolvePieces_cons done
      rcases List.mem_cons.mp member with same | behind
      · exact first written call same.symm
      · exact ih.mp ⟨_, later⟩ written call behind
    · intro all
      obtain ⟨result, later⟩ := ih.mpr fun written call member => all written call (List.mem_cons_of_mem _ member)
      cases piece with
      | char c =>
        refine ⟨(c :: result.1, result.2), ?_⟩
        simp only [resolvePieces, later, bind, Except.bind, pure, Except.pure]
      | construct written call =>
        obtain ⟨found, resolved⟩ := all written call List.mem_cons_self
        cases found with
        | none =>
          refine ⟨(written ++ result.1, result.2), ?_⟩
          simp only [resolvePieces, resolved, later, bind, Except.bind, pure, Except.pure]
        | some path =>
          refine ⟨(call.render path ++ result.1, resolvedRecord call.name path :: result.2), ?_⟩
          simp only [resolvePieces, resolved, later, bind, Except.bind, pure, Except.pure]

/-- Pieces that are pointed are shown with their calls pointed. -/
theorem eq_of_resolvePieces {pieces : List (Piece RequireCall)} {pointed : List Char} {logs : List Log.Record}
    (done : resolvePieces tree context pieces = .ok (pointed, logs)) :
    pointed = pieces.flatMap (Piece.shown (pointedCall tree context)) := by
  induction pieces generalizing pointed logs with
  | nil =>
    cases done
    rfl
  | cons piece pieces ih =>
    obtain ⟨-, rest, others, later, parts⟩ := exists_of_resolvePieces_cons done
    rw [parts, ih later, List.flatMap_cons]

/-- A call for a path without line feeds has none. -/
theorem IsRequire.not_mem_render {call : RequireCall} {written : List Char} (isCall : IsRequire call written)
    {path : List Char} (absent : '\n' ∉ path) : '\n' ∉ call.render path := by
  have opening : '\n' ∉ "require".toList ++ [] := by decide
  have noQuote : '\n' ≠ call.quote := by
    intro same
    have quoted := isCall.quoted
    rw [← same] at quoted
    exact absurd quoted (by decide)
  have inPath : '\n' ∉ escapeBackslashes path := mt mem_of_mem_escapeBackslashes absent
  rw [render_eq, List.mem_append, not_or]
  exact ⟨opening, by simp [noQuote, inPath]⟩

/-- A call that is pointed at a path keeps none of its line feeds, and any other call keeps all of them. -/
theorem IsRequire.lineFeeds_pointedCall (base : ∀ path ∈ context.base, '\n' ∉ path.text)
    (document : ∀ path ∈ context.document, '\n' ∉ path.text) {call : RequireCall} {written : List Char}
    (isCall : IsRequire call written) :
    lineFeeds (pointedCall tree context written call) + lostFeeds tree context written call =
      lineFeeds written := by
  cases resolved : Module.resolve tree context call.name with
  | error error => simp [pointedCall, lostFeeds, resolved]
  | ok found =>
    cases found with
    | none => simp [pointedCall, lostFeeds, resolved]
    | some path =>
      have noFeed : '\n' ∉ path := not_mem_of_resolve (by decide)
        (fun path known => Path.lacks_of_not_mem_text (base path known))
        (fun path known => Path.lacks_of_not_mem_text (document path known))
        (isCall.not_mem_name (by decide)) resolved
      simp [pointedCall, lostFeeds, resolved, lineFeeds_eq_zero_iff.mpr (isCall.not_mem_render noFeed)]

end Marginalia.Preparation

namespace Marginalia

open Text File Preparation

/-- **The line feeds of imports.** For every text, the stage of imports keeps the line feeds of all imports that
bind names, and of the rest of the text. An import that binds nothing loses those that it was written over. So
the later lines stay where they are exactly if the keyword of each such import stands on the line of its
module. -/
theorem lineFeeds_importsAsRequires (text : List Char) :
    lineFeeds (boundImports text) = lineFeeds text ∧
      (∀ written name, .construct written name ∈ scan readBareImport none (boundImports text) →
        IsBareImport name written) ∧
      lineFeeds (importsAsRequires text) +
          losses (fun written _ => lineFeeds written) (scan readBareImport none (boundImports text)) =
        lineFeeds text ∧
      (lineFeeds (importsAsRequires text) = lineFeeds text ↔
        ∀ written name, .construct written name ∈ scan readBareImport none (boundImports text) →
          '\n' ∉ written) := by
  have bare : ∀ written name, .construct written name ∈ scan readBareImport none (boundImports text) →
      IsBareImport name written := by
    intro written name member
    obtain ⟨before, after, read⟩ := read_of_mem_scan readsFront_readBareImport member
    exact isBareImport_of_read read
  have account : ∀ written name, .construct written name ∈ scan readBareImport none (boundImports text) →
      lineFeeds (requireCall name) + lineFeeds written = lineFeeds written := by
    intro written name member
    rw [lineFeeds_eq_zero_iff.mpr (bare written name member).not_mem_requireCall, Nat.zero_add]
  have stage : importsAsRequires text = (scan readBareImport none (boundImports text)).flatMap
      (Piece.shown fun _ name => requireCall name) := rfl
  have bound := lineFeeds_boundImports text
  have lost := lineFeeds_shown account
  have kept := lineFeeds_shown_eq_iff account
  rw [← stage, flatMap_text_scan, bound] at lost kept
  refine ⟨bound, bare, lost, kept.trans ?_⟩
  simp only [lineFeeds_eq_zero_iff]

/-- An import that binds nothing loses the line feed between its keyword and its module. -/
theorem importsAsRequires_loses_lineFeed :
    importsAsRequires "import\n'm'".toList = "require('m')".toList ∧
      lineFeeds (importsAsRequires "import\n'm'".toList) ≠ lineFeeds "import\n'm'".toList := by
  decide +kernel

/-- **The line feeds of calls.** Where the paths of the project and of the document have no line feeds, pointing
the calls of a text at the paths of their modules gives a text exactly if the module of each call can be looked
up. That text has lost the line feeds of the calls that are pointed, and no others. So the later lines stay
where they are exactly if each of these calls stands on one line. -/
theorem lineFeeds_resolveRequires (tree : Tree) {context : Module.Context}
    (base : ∀ path ∈ context.base, '\n' ∉ path.text) (document : ∀ path ∈ context.document, '\n' ∉ path.text)
    (text : List Char) :
    ((∃ result, resolveRequires tree context text = .ok result) ↔
        ∀ written call, .construct written call ∈ scan readRequire none text →
          ∃ found, Module.resolve tree context call.name = .ok found) ∧
      ∀ pointed logs, resolveRequires tree context text = .ok (pointed, logs) →
        lineFeeds pointed + losses (lostFeeds tree context) (scan readRequire none text) = lineFeeds text ∧
          (lineFeeds pointed = lineFeeds text ↔
            ∀ written call, .construct written call ∈ scan readRequire none text →
              (∃ path, Module.resolve tree context call.name = .ok (some path)) → '\n' ∉ written) := by
  have account : ∀ written call, .construct written call ∈ scan readRequire none text →
      lineFeeds (pointedCall tree context written call) + lostFeeds tree context written call =
        lineFeeds written := by
    intro written call member
    obtain ⟨before, after, read⟩ := read_of_mem_scan readsFront_readRequire member
    exact (isRequire_of_read read).2.lineFeeds_pointedCall base document
  refine ⟨resolvePieces_isOk_iff, fun pointed logs done => ?_⟩
  have lost := lineFeeds_shown account
  have kept := lineFeeds_shown_eq_iff account
  rw [← eq_of_resolvePieces done, flatMap_text_scan] at lost kept
  refine ⟨lost, kept.trans ?_⟩
  simp only [lostFeeds_eq_zero_iff]

/-- A call over several lines that is pointed, and one that stays. -/
theorem lineFeeds_resolveRequires_of_two_calls :
    let tree : Tree := ⟨[((Path.ofText "p/x.js".toList).names, .file)], []⟩
    let context : Module.Context := ⟨some (.ofText "p".toList), none⟩
    let text := "require(\n'./x'\n)\nrequire(\n'fs')".toList
    let pointed := "require('p/x')\nrequire(\n'fs')".toList
    (∀ path ∈ context.base, '\n' ∉ path.text) ∧ (∀ path ∈ context.document, '\n' ∉ path.text) ∧
      resolveRequires tree context text = .ok (pointed, [resolvedRecord "./x".toList "p/x".toList]) ∧
      losses (lostFeeds tree context) (scan readRequire none text) = 2 ∧
      lineFeeds pointed + losses (lostFeeds tree context) (scan readRequire none text) = lineFeeds text := by
  intro tree context text pointed
  have base : ∀ path ∈ context.base, '\n' ∉ path.text := by decide +kernel
  have document : ∀ path ∈ context.document, '\n' ∉ path.text := by decide +kernel
  have gives : (resolveRequires tree context text).toOption =
      some (pointed, [resolvedRecord "./x".toList "p/x".toList]) := by decide +kernel
  have done := toOption_eq_some_iff.mp gives
  exact ⟨base, document, done, by decide +kernel,
    ((lineFeeds_resolveRequires tree base document text).2 _ _ done).1⟩

/-- A call that is pointed at the path of its module, below a project, loses the line feeds around its
parentheses. -/
theorem resolveRequires_loses_lineFeeds :
    let tree : Tree := ⟨[((Path.ofText "p/x.js".toList).names, .file)], []⟩
    let context : Module.Context := ⟨some (.ofText "p".toList), none⟩
    let text := "require(\n'./x'\n)".toList
    let pointed := "require('p/x')".toList
    (∀ path ∈ context.base, '\n' ∉ path.text) ∧ (∀ path ∈ context.document, '\n' ∉ path.text) ∧
      (resolveRequires tree context text).toOption.map (·.1) = some pointed ∧
      lineFeeds pointed ≠ lineFeeds text := by
  decide +kernel

end Marginalia
