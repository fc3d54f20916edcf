import Marginalia.Text.Blank
import Marginalia.Text.Category
import Marginalia.Text.Line
import Marginalia.Text.Scan

/-! # Import declarations
The interpreter evaluates one line at a time and knows no import declarations, so each becomes a
binding of a `require` call. A declaration is recognised wherever its keyword stands alone; scopes,
strings and comments are not looked at. The line breaks inside a declaration are put after its
replacement, so that later lines keep their numbers. -/

namespace Marginalia.Preparation

open Text

/-- What an import declaration binds, and the module it names. -/
structure ImportDeclaration where
  /-- The name bound to the default export. -/
  defaultName : Option (List Char)
  /-- The name bound to the whole module. -/
  namespaceName : Option (List Char)
  /-- The text between the braces of the named imports. -/
  clause : Option (List Char)
  /-- The module, as written between its quotes. -/
  moduleName : List Char
  deriving DecidableEq, Repr

/-- A character that the character before a keyword must not be. -/
def joinsKeyword (c : Char) : Bool := isWord c || c == '$' || c == '.'

/-- Whether a keyword may start after the given character. -/
def mayStartKeyword (before : Option Char) : Bool := !(before.any joinsKeyword)

/-- A quotation mark of a module name. -/
def isQuote (c : Char) : Bool := c == '"' || c == '\''

/-- A character that may stand inside the quotes of an imported module name. -/
def isModuleChar (c : Char) : Bool := !isQuote c && c != '\r' && c != '\n'

/-- Read a quoted module name and its closing quote. -/
def readModule : List Char → Option (List Char × List Char)
  | [] => none
  | quote :: text =>
    if isQuote quote then
      match spanOf isModuleChar text with
      | (first :: others, closing :: after) =>
        if closing = quote then some (first :: others, after) else none
      | _ => none
    else none

/-- Read the name of a binding. -/
def readName : List Char → Option (List Char × List Char)
  | [] => none
  | first :: text =>
    if isNameStart first then
      some (first :: text.takeWhile isNamePart, text.dropWhile isNamePart)
    else none

/-- The word that announces the module. -/
def fromWord : List Char := "from".toList

/-- A name with the word `from` glued to its end, without that word. -/
def ungluedName (name : List Char) : Option (List Char) :=
  let front := name.take (name.length - fromWord.length)
  if front ≠ [] ∧ name = front ++ fromWord then some front else none

/-- Read the module with the word before it. -/
def readFrom (text : List Char) : Option (List Char × List Char) := do
  let after ← expect fromWord text
  readModule (skipBlanks after)

/-- Read the end of a declaration from its named imports on. -/
def readClauseTail (defaultName namespaceName : Option (List Char)) :
    List Char → Option (ImportDeclaration × List Char)
  | '{' :: text =>
    match spanOf (fun c => c != '{' && c != '}') text with
    | (clause, '}' :: after) =>
      (readFrom (skipBlanks after)).map fun (moduleName, after) =>
        (⟨defaultName, namespaceName, some clause, moduleName⟩, after)
    | _ => none
  | text =>
    (readFrom text).map fun (moduleName, after) =>
      (⟨defaultName, namespaceName, none, moduleName⟩, after)

/-- Read the name bound to the whole module, from the star on. -/
def readNamespaceName (text : List Char) : Option (List Char × List Char) := do
  let word ← expect "as".toList (skipBlanks text)
  let name := skipBlanks word
  if name.length < word.length then readName name else none

/-- Read the end of a declaration from its binding of the whole module on. -/
def readNamespaceTail (defaultName : Option (List Char)) :
    List Char → Option (ImportDeclaration × List Char)
  | '*' :: text => do
    let (name, after) ← readNamespaceName text
    (readClauseTail defaultName (some name) (skipBlanks after)).or <| do
      let name ← ungluedName name
      let (moduleName, after) ← readModule (skipBlanks after)
      return (⟨defaultName, some name, none, moduleName⟩, after)
  | text => readClauseTail defaultName none text

/-- The text after a comma, if it starts with one. -/
def skipComma : List Char → List Char
  | ',' :: text => text
  | text => text

/-- Whether a text starts with the word that announces imports of types only. -/
def startsWithType (text : List Char) : Bool :=
  match expect "type".toList text with
  | some after => !(after.head?.any isWord)
  | none => false

/-- Whether the character after the keyword lets a declaration go on. -/
def opensDeclaration (text : List Char) : Bool :=
  text.head?.any fun c => isBlank c || c == '{' || c == '*'

/-- Read a declaration that binds the default export first. -/
def readDefaultFirst (text : List Char) : Option (ImportDeclaration × List Char) := do
  let (name, after) ← readName text
  (readNamespaceTail (some name) (skipBlanks (skipComma (skipBlanks after)))).or <| do
    let name ← ungluedName name
    let (moduleName, after) ← readModule (skipBlanks after)
    return (⟨some name, none, none, moduleName⟩, after)

/-- Read an import declaration that binds names; imports of types only are left alone. -/
def readImport : Recogniser ImportDeclaration := fun before text =>
  if mayStartKeyword before then do
    let text ← expect "import".toList text
    if opensDeclaration text then
      let text := skipBlanks text
      if startsWithType text then none
      else (readDefaultFirst text).or (readNamespaceTail none text)
    else none
  else none

/-- Read an import declaration that binds nothing: the module it names. -/
def readBareImport : Recogniser (List Char) := fun before text =>
  if mayStartKeyword before then do
    let text ← expect "import".toList text
    readModule (skipBlanks text)
  else none

/-- A `require` call of a module. -/
def requireCall (moduleName : List Char) : List Char :=
  "require('".toList ++ moduleName ++ "')".toList

/-- Whether a word is a name as a whole. -/
def isName : List Char → Bool
  | [] => false
  | first :: others => isNameStart first && others.all isNamePart

/-- The binding for one entry of the named imports; entries of an unknown form stay as they are. -/
def bindingOf (entry : List (List Char)) : List Char :=
  match entry with
  | [name, word, newName] =>
    if isName name && word == "as".toList && isName newName then name ++ ": ".toList ++ newName
    else [' '].intercalate entry
  | _ => [' '].intercalate entry

/-- Cut a text at every occurrence of a character. -/
def splitAtChar (separator : Char) : List Char → List (List Char)
  | [] => [[]]
  | c :: rest =>
    if c = separator then [] :: splitAtChar separator rest
    else consHead c (splitAtChar separator rest)

/-- The bindings for the named imports, in order; empty entries are dropped. -/
def bracedBindings (clause : List Char) : List (List Char) :=
  (((splitAtChar ',' clause).map words).filter (· ≠ [])).map bindingOf

/-- All bindings of a declaration but the one for the whole module. -/
def ImportDeclaration.bindings (declaration : ImportDeclaration) : List (List Char) :=
  (declaration.defaultName.map ("default: ".toList ++ ·)).toList ++
    (declaration.clause.map bracedBindings).getD []

/-- A pattern that takes bindings out of a module. -/
def bindingPattern (bindings : List (List Char)) : List Char :=
  "\x7b ".toList ++ ", ".toList.intercalate bindings ++ " \x7d".toList

/-- Whether a declaration says nothing but that the default export is to be called `from`. -/
def ImportDeclaration.isFromOnly (declaration : ImportDeclaration) : Bool :=
  declaration.defaultName == some fromWord && declaration.namespaceName.isNone &&
    (declaration.clause.getD []).isEmpty

/-- The statement that binds what a declaration imports. -/
def ImportDeclaration.statement (declaration : ImportDeclaration) : List Char :=
  let call := requireCall declaration.moduleName
  match declaration.namespaceName, declaration.bindings with
  | some name, [] => "const ".toList ++ name ++ " = ".toList ++ call
  | some name, bindings =>
    "const ".toList ++ name ++ " = ".toList ++ call ++ ", ".toList ++ bindingPattern bindings ++
      " = ".toList ++ name
  | none, [] => call
  | none, bindings => "const ".toList ++ bindingPattern bindings ++ " = ".toList ++ call

/-- What a declaration is replaced by: its statement and the line breaks it was written over. -/
def renderImport (written : List Char) (declaration : ImportDeclaration) : List Char :=
  if declaration.isFromOnly then written
  else declaration.statement ++ List.replicate (lineFeeds written) '\n'

/-- Turn every import declaration of a text into `require` calls: first those that bind names, then
the others. -/
def importsAsRequires (text : List Char) : List Char :=
  replace readBareImport (fun _ moduleName => requireCall moduleName)
    (replace readImport renderImport text)

@[simp] theorem importsAsRequires_nil : importsAsRequires [] = [] := by simp [importsAsRequires]

end Marginalia.Preparation
