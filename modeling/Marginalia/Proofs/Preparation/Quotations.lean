import Mathlib.Data.List.Chain
import Marginalia.Proofs.Preparation.Keywords

/-! # Quoted imports
A source is taken as code with texts between quotes in it (`Quotation`), where the word `import` stands
between quotes only (`ImportsQuoted`). An import is then read just where two neighbouring quotations are
misread (`Misread`): the reader takes a closing quote for the one in front of a module name, or a clause
of named imports over several quotations. Without such neighbours preparation leaves the source as it is
(`document_of_quotations`); with them it does not (`document_changes_quotations`). -/

namespace Marginalia.Preparation

open Text Marker

/-! ## Quotations -/

/-- A text between two quotes of one kind on one line, and the code behind it up to the next. -/
structure Quotation where
  /-- The quote. -/
  quote : Char
  /-- The text between the quotes. -/
  contents : List Char
  /-- The code behind the closing quote. -/
  code : List Char
  /-- A quotation mark is around the text. -/
  quoted : isQuote quote = true
  /-- The text ends at the next quotation mark and on the same line, whatever is read as an escape. -/
  simple : ∀ c ∈ contents, isModuleChar c = true ∧ c ≠ '\\'
  /-- The code has no quotation marks. -/
  unquoted : Unquoted code

/-- A quotation with the code behind it, as written. -/
def Quotation.text (quotation : Quotation) : List Char :=
  quotation.quote :: (quotation.contents ++ quotation.quote :: quotation.code)

/-- The characters of a text can be checked to be such as may stand between the quotes. -/
theorem simple_of_all {contents : List Char}
    (all : contents.all (fun c => isModuleChar c && c != '\\') = true) :
    ∀ c ∈ contents, isModuleChar c = true ∧ c ≠ '\\' := by
  simpa using all

/-- What stands between the quotes has no quotation marks. -/
theorem Quotation.unquoted_contents (quotation : Quotation) : Unquoted quotation.contents :=
  unquoted_of_forall (by decide) (by decide) fun c member => (quotation.simple c member).1

/-- The source is some code and quotations, and the word `import` stands between quotes only. -/
structure ImportsQuoted (source code : List Char) (quotations : List Quotation) : Prop where
  /-- The source in its parts. -/
  parts : source = code ++ quotations.flatMap Quotation.text
  /-- The code in front of the first quotation has no quotation marks. -/
  unquoted : Unquoted code
  /-- The code in front of the first quotation does not import. -/
  code_lacks : ¬ HasWord "import".toList code
  /-- The code behind a quotation does not import. -/
  codes_lack : ∀ quotation ∈ quotations, ¬ HasWord "import".toList quotation.code

/-- A text ends in a word, but for white space. -/
def EndsIn (word text : List Char) : Prop := word <:+ trimEnd text

/-- The reader of imports may misread a quotation and the next. Either the first ends in a word that
announces a module, and its closing quote is taken for the one in front of the module name, which is
then the code between them. Or that code ends a clause of named imports and announces a module, which
is then the second quotation. -/
def Misread (first second : Quotation) : Prop :=
  ((EndsIn "import".toList first.contents ∨ EndsIn fromWord first.contents) ∧ first.code ≠ [] ∧
    (∀ c ∈ first.code, c ≠ '\r' ∧ c ≠ '\n') ∧ first.quote = second.quote) ∨
  (∃ clause, EndsIn ['}'] clause ∧ trimEnd first.code = clause ++ fromWord) ∧ second.contents ≠ []

/-! ## Quotes -/

/-- A quotation mark in a text, seen from the first quotation mark of the text: it is that one, or it
stands behind it. -/
theorem quote_of_append_cons {front code rest after : List Char} {first quote : Char}
    (unquoted : Unquoted code) (quoted : isQuote quote = true)
    (parts : code ++ first :: rest = front ++ quote :: after) :
    (front = code ∧ quote = first ∧ after = rest) ∨
      ∃ behind, front = code ++ first :: behind ∧ rest = behind ++ quote :: after := by
  rcases List.append_eq_append_iff.mp parts with ⟨others, longer, behind⟩ | ⟨others, shorter, behind⟩
  · cases others with
    | nil =>
      obtain ⟨same, rest⟩ := List.cons.inj behind
      exact .inl ⟨by rw [longer, List.append_nil], same.symm, rest.symm⟩
    | cons c others =>
      obtain ⟨rfl, rest⟩ := List.cons.inj behind
      exact .inr ⟨others, longer, rest⟩
  · cases others with
    | nil =>
      obtain ⟨same, rest⟩ := List.cons.inj behind
      exact .inl ⟨by rw [shorter, List.append_nil], same, rest⟩
    | cons c others =>
      obtain ⟨rfl, -⟩ := List.cons.inj behind
      rw [unquoted quote (by simp [shorter])] at quoted
      cases quoted

/-- The first quotation mark of a text. -/
theorem first_quote {name code rest after : List Char} {first quote : Char} (unquoted : Unquoted code)
    (quiet : Unquoted name) (isFirst : isQuote first = true) (quoted : isQuote quote = true)
    (parts : code ++ first :: rest = name ++ quote :: after) : name = code ∧ quote = first := by
  rcases quote_of_append_cons unquoted quoted parts with ⟨same, quote, -⟩ | ⟨behind, rfl, -⟩
  · exact ⟨same, quote⟩
  · rw [quiet first (by simp)] at isFirst
    cases isFirst

/-- Every end of a text without quotation marks is an end of another. -/
def EndsLike (front text : List Char) : Prop := ∀ part, Unquoted part → part <:+ front → part <:+ text

/-- What is in front of a quotation mark does not matter for the ends without any. -/
theorem EndsLike.append_cons {front text : List Char} (ends : EndsLike front text) {quote : Char}
    (quoted : isQuote quote = true) (others : List Char) : EndsLike (others ++ quote :: front) text := by
  intro part quiet inside
  rcases suffix_append_cons inside with ⟨more, -, rfl⟩ | behind
  · rw [quiet quote (by simp)] at quoted
    cases quoted
  · exact ends part quiet behind

/-- Two quotation marks bound a text: the closing one of a quotation and the opening one of the next
bound the code between them, and the two of the next bound its contents. The text in front of the first
mark ends like the contents or like the code of the first quotation. -/
inductive Bounds (first second : Quotation) (front name : List Char) (quote closing : Char) : Prop where
  /-- The code between two quotations. -/
  | code (isQuote : first.quote = quote) (isClosing : second.quote = closing) (isName : first.code = name)
      (ends : EndsLike front first.contents)
  /-- The contents of the second quotation. -/
  | contents (isName : second.contents = name) (quotes : ¬ Unquoted front)
      (ends : EndsLike front first.code)

/-- A longer text in front of the first mark changes nothing, if it ends in a quotation mark. -/
theorem Bounds.append_cons {first second : Quotation} {front name : List Char} {quote closing : Char}
    (bounds : Bounds first second front name quote closing) {mark : Char} (marked : isQuote mark = true)
    (others : List Char) : Bounds first second (others ++ mark :: front) name quote closing := by
  cases bounds with
  | code isQuote isClosing isName ends =>
    exact .code isQuote isClosing isName (ends.append_cons marked others)
  | contents isName quotes ends =>
    refine .contents isName (fun unquoted => quotes fun c member => unquoted c ?_)
      (ends.append_cons marked others)
    exact List.mem_append_right _ (List.mem_cons_of_mem mark member)

/-- **Between two quotation marks.** Two quotation marks behind the start of a quotation, with nothing but
other characters between them, bound some code or some contents. -/
theorem exists_neighbours {opening : Quotation} {others : List Quotation}
    {rest front name after : List Char} {quote closing : Char} (ends : rest <:+ opening.contents)
    (isOpening : isQuote quote = true) (isClosing : isQuote closing = true) (quiet : Unquoted name)
    (parts : rest ++ opening.quote :: (opening.code ++ others.flatMap Quotation.text) =
      front ++ quote :: (name ++ closing :: after)) :
    ∃ first second more, first :: second :: more <:+ opening :: others ∧
      Bounds first second front name quote closing := by
  induction others generalizing opening rest front with
  | nil =>
    -- There is only one quotation mark left.
    have marks := congrArg (List.countP isQuote) parts
    have noneInRest : rest.countP isQuote = 0 :=
      List.countP_eq_zero.mpr fun c member => by
        simp [opening.unquoted_contents c (ends.subset member)]
    have noneInCode : opening.code.countP isQuote = 0 :=
      List.countP_eq_zero.mpr fun c member => by simp [opening.unquoted c member]
    simp [noneInRest, noneInCode, opening.quoted, isOpening, isClosing] at marks
    omega
  | cons next more ih =>
    have whole : (next :: more).flatMap Quotation.text =
        next.quote :: (next.contents ++ next.quote :: (next.code ++ more.flatMap Quotation.text)) := by
      simp [Quotation.text]
    rw [whole] at parts
    rcases quote_of_append_cons (opening.unquoted_contents.of_suffix ends) isOpening parts with
      ⟨inFront, isQuote, behind⟩ | ⟨behind, inFront, parts⟩
    · obtain ⟨isName, isNext⟩ := first_quote opening.unquoted quiet next.quoted isClosing behind.symm
      refine ⟨opening, next, more, List.suffix_refl _, .code isQuote.symm isNext.symm isName.symm ?_⟩
      exact fun part _ inside => (inFront ▸ inside).trans ends
    · rcases quote_of_append_cons opening.unquoted isOpening parts with
        ⟨inBehind, isQuote, same⟩ | ⟨later, inBehind, parts⟩
      · obtain ⟨isName, -⟩ := first_quote next.unquoted_contents quiet next.quoted isClosing same.symm
        refine ⟨opening, next, more, List.suffix_refl _, .contents isName.symm ?_ ?_⟩
        · intro unquoted
          have quoted := unquoted opening.quote (by simp [inFront])
          rw [opening.quoted] at quoted
          cases quoted
        · have code : EndsLike opening.code opening.code := fun _ _ inside => inside
          rw [inFront, inBehind]
          exact code.append_cons opening.quoted rest
      · obtain ⟨first, second, others, suffix, bounds⟩ := ih (List.suffix_refl _) parts
        refine ⟨first, second, others, suffix.trans (List.suffix_cons _ _), ?_⟩
        rw [inFront, inBehind, ← List.cons_append, ← List.append_assoc]
        exact bounds.append_cons next.quoted _

/-! ## Imports between quotes -/

/-- The word `import` of a source with quotations stands in one of them. -/
theorem exists_opening {code front after : List Char} {quotations : List Quotation}
    (code_lacks : ¬ HasWord "import".toList code)
    (codes_lack : ∀ quotation ∈ quotations, ¬ HasWord "import".toList quotation.code)
    (parts : code ++ quotations.flatMap Quotation.text = front ++ ("import".toList ++ after))
    (alone : Alone front after) :
    ∃ opening others rest, opening :: others <:+ quotations ∧ HasWord "import".toList opening.contents ∧
      rest <:+ opening.contents ∧ "import".toList ++ after =
        rest ++ opening.quote :: (opening.code ++ others.flatMap Quotation.text) := by
  have absent {quote : Char} (quoted : isQuote quote = true) : quote ∉ "import".toList := by
    intro member
    rw [unquoted_import quote member] at quoted
    cases quoted
  induction quotations generalizing code front with
  | nil =>
    rw [List.flatMap_nil, List.append_nil] at parts
    exact absurd ⟨front, after, parts, alone⟩ code_lacks
  | cons next more ih =>
    have whole : (next :: more).flatMap Quotation.text =
        next.quote :: (next.contents ++ next.quote :: (next.code ++ more.flatMap Quotation.text)) := by
      simp [Quotation.text]
    rw [whole] at parts
    rcases alone_of_append_cons (absent next.quoted) parts alone with
      ⟨inCode, -⟩ | ⟨front, parts, alone⟩
    · exact absurd inCode code_lacks
    · rcases alone_of_append_cons (absent next.quoted) parts alone with
        ⟨stands, others, inside, behind⟩ | ⟨front, parts, alone⟩
      · refine ⟨next, more, "import".toList ++ others, List.suffix_refl _, stands, ?_, ?_⟩
        · exact inside ▸ List.suffix_append front _
        · rw [behind, List.append_assoc]
      · obtain ⟨first, others⟩ := List.forall_mem_cons.mp codes_lack
        obtain ⟨opening, behind, rest, suffix, found⟩ := ih first others parts alone
        exact ⟨opening, behind, rest, suffix.trans (List.suffix_cons _ _), found⟩

/-- A text ends in a word that stands at its end with white space behind it. -/
theorem endsIn_of_suffix {word letters blanks text : List Char} {c : Char} (spelled : word = letters ++ [c])
    (solid : isBlank c = false) (blank : Blank blanks) (ends : word ++ blanks <:+ text) :
    EndsIn word text := by
  obtain ⟨front, rfl⟩ := ends
  have whole : front ++ (word ++ blanks) = (front ++ letters) ++ c :: blanks := by simp [spelled]
  rw [EndsIn, trimEnd, whole, trimEndBy_append_of_all solid blank, List.append_assoc, ← spelled]
  exact List.suffix_append front word

/-- No module is named behind a quotation from which on no two neighbours are misread. -/
theorem not_namesModule {opening : Quotation} {others : List Quotation} {rest after : List Char}
    (ends : rest <:+ opening.contents)
    (apart : (opening :: others).IsChain fun first second => ¬ Misread first second) :
    ¬ NamesModule (rest ++ opening.quote :: (opening.code ++ others.flatMap Quotation.text)) after := by
  rintro ⟨front, quote, name, announces, quoted, something, all, parts⟩
  have quiet : Unquoted name := unquoted_of_forall (by decide) (by decide) all
  obtain ⟨first, second, more, suffix, bounds⟩ := exists_neighbours ends quoted quoted quiet parts
  have importSpelled : "import".toList = "impor".toList ++ ['t'] := by decide
  have fromSpelled : fromWord = "fro".toList ++ ['m'] := by decide
  have braceSpelled : ['}'] = [] ++ ['}'] := rfl
  refine (apart.suffix suffix).rel ?_
  cases bounds with
  | code isQuote isClosing isName ends =>
    refine .inl ⟨?_, isName ▸ something, fun c member => ?_, isQuote.trans isClosing.symm⟩
    · rcases announces with ⟨quietFront, word, blanks, rfl | rfl, blank, inFront⟩ |
        ⟨_, blanks, _, blank, inFront⟩
      · exact .inl (endsIn_of_suffix importSpelled (by decide) blank
          (ends _ (quietFront.of_suffix inFront) inFront))
      · exact .inr (endsIn_of_suffix fromSpelled (by decide) blank
          (ends _ (quietFront.of_suffix inFront) inFront))
      · have glued : fromWord ++ blanks <:+ front :=
          ((List.suffix_append _ _).trans (List.suffix_cons _ _)).trans inFront
        exact .inr (endsIn_of_suffix fromSpelled (by decide) blank
          (ends _ (unquoted_fromWord.append (.of_blank blank)) glued))
    · have inside := all c (isName ▸ member)
      simp only [isModuleChar, Bool.and_eq_true, bne_iff_ne] at inside
      exact ⟨inside.1.2, inside.2⟩
  | contents isName quotes ends =>
    rcases announces with ⟨quietFront, -⟩ | ⟨blanks, more, blank, blankMore, inFront⟩
    · exact absurd quietFront quotes
    · refine .inr ⟨?_, isName ▸ something⟩
      have brace : isQuote '}' = false := by decide
      have quietEnd : Unquoted ('}' :: (blanks ++ (fromWord ++ more))) :=
        List.forall_mem_cons.mpr
          ⟨brace, Unquoted.append (.of_blank blank) (unquoted_fromWord.append (.of_blank blankMore))⟩
      obtain ⟨clause, inCode⟩ := ends _ quietEnd inFront
      refine ⟨clause ++ '}' :: blanks, ?_, ?_⟩
      · exact endsIn_of_suffix braceSpelled (by decide) blank (List.suffix_append _ _)
      · have whole : first.code = (clause ++ '}' :: (blanks ++ "fro".toList)) ++ 'm' :: more := by
          simp [← inCode, fromSpelled]
        rw [whole, trimEnd, trimEndBy_append_of_all (by decide) blankMore, fromSpelled]
        simp

/-- **No import is found.** Where the word stands between quotes only and no two neighbours from one of
these on are misread, the stage of imports leaves a source as it is. -/
theorem importsAsRequires_of_quoted {source code : List Char} {quotations : List Quotation}
    (quoted : ImportsQuoted source code quotations)
    (apart : ∀ opening others, opening :: others <:+ quotations →
      HasWord "import".toList opening.contents →
      (opening :: others).IsChain fun first second => ¬ Misread first second) :
    importsAsRequires source = source := by
  -- Either reader would need the word where it stands alone, and a module named behind it.
  have unnamed {front rest behind after : List Char} (parts : source = front ++ rest)
      (word : rest = "import".toList ++ behind) (alone : Alone front behind) :
      ¬ NamesModule rest after := by
    rw [quoted.parts, word] at parts
    obtain ⟨opening, others, part, suffix, stands, ends, same⟩ :=
      exists_opening quoted.code_lacks quoted.codes_lack parts alone
    rw [word, same]
    exact not_namesModule ends (apart opening others suffix stands)
  have declarations : replace readImport renderImport source = source := by
    refine replace_of_silent _ fun front rest parts => ?_
    cases read : readImport front.getLast? rest with
    | none => rfl
    | some found =>
      obtain ⟨names, before, behind, word, after⟩ := namesModule_of_readImport read
      exact absurd names (unnamed parts word ⟨before, after⟩)
  rw [importsAsRequires, declarations]
  refine replace_of_silent _ fun front rest parts => ?_
  cases read : readBareImport front.getLast? rest with
  | none => rfl
  | some found =>
    obtain ⟨names, before, behind, word, after⟩ := namesModule_of_readBareImport read
    exact absurd names (unnamed parts word ⟨before, after⟩)

/-- A text in which no line but the first starts with a dot has no chains to join. -/
theorem joinChains_of_noDots {text : List Char}
    (noDots : ∀ line ∈ (physicalLines text).tail, startsWithDot line = false) : joinChains text = text := by
  have cut := cut_splitLines text
  have whole := joinLines_splitLines text
  obtain ⟨line, lines, parts⟩ := List.exists_cons_of_ne_nil (splitLines_ne_nil text)
  rw [physicalLines, parts, List.tail_cons] at noDots
  rw [parts] at cut whole
  have same := joinChains_of_unfolded cut fun rest suffix => by
    have inRest : ∀ line ∈ rest, startsWithDot line = false := fun line member =>
      noDots line (suffix.subset member)
    clear suffix
    induction rest with
    | nil => rfl
    | cons next rest ih =>
      obtain ⟨first, others⟩ := List.forall_mem_cons.mp inRest
      rw [breakFolds, first, ih others, Bool.and_false, Bool.or_false]
  rwa [whole] at same

end Marginalia.Preparation

namespace Marginalia

open Text Preparation Marker

/-- **Nothing to prepare.** A source without the words `require` and `console`, in which no line but the
first starts with a dot and the word `import` stands between quotes only, is left as it is by every stage,
whatever files there are and whatever functions are looked for, if no two neighbouring quotations from
one of these on are misread. -/
theorem document_of_quotations (setting : Setting) {source code : List Char} {quotations : List Quotation}
    (quoted : ImportsQuoted source code quotations) (noRequire : ¬ HasWord "require".toList source)
    (noConsole : ¬ HasWord "console".toList source)
    (noDots : ∀ line ∈ (physicalLines source).tail, startsWithDot line = false)
    (apart : ∀ opening others, opening :: others <:+ quotations →
      HasWord "import".toList opening.contents →
      (opening :: others).IsChain fun first second => ¬ Misread first second) :
    document setting source = .ok (source, []) :=
  document_of_fixed (importsAsRequires_of_quoted quoted apart)
    (resolveRequires_of_lacks noRequire setting.tree setting.context)
    (tagCalls_of_lacks noConsole setting.functions) (joinChains_of_noDots noDots)

/-- Quotations that end in a word before a module, one with a line break behind it and one in front of
quotes of the other kind. -/
theorem document_of_quotations_of_two_kinds :
    let setting : Setting := ⟨⟨[], []⟩, ⟨none, none⟩, ["log".toList]⟩
    let source := "let a = 'import ';\nb = \"import c from \" + 'm'.length;\n".toList
    document setting source = .ok (source, []) := by
  intro setting source
  let quotations : List Quotation :=
    [⟨'\'', "import ".toList, ";\nb = ".toList, by decide, simple_of_all (by decide), by decide⟩,
      ⟨'"', "import c from ".toList, " + ".toList, by decide, simple_of_all (by decide), by decide⟩,
      ⟨'\'', "m".toList, ".length;\n".toList, by decide, simple_of_all (by decide), by decide⟩]
  have lacks : ∀ quotation ∈ quotations, ¬ "import".toList <:+: quotation.code := by decide +kernel
  have quoted : ImportsQuoted source "let a = ".toList quotations :=
    ⟨by decide +kernel, by decide, mt HasWord.isInfix (by decide +kernel),
      fun quotation member => mt HasWord.isInfix (lacks quotation member)⟩
  have apart : quotations.IsChain fun first second => ¬ Misread first second := by
    refine .cons_cons ?_ (.cons_cons ?_ (.singleton _))
    · rintro (⟨-, -, plain, -⟩ | ⟨⟨clause, -, ends⟩, -⟩)
      · exact (plain '\n' (by decide)).2 rfl
      · exact absurd ⟨clause, ends.symm⟩ (show ¬ fromWord <:+ trimEnd ";\nb = ".toList by decide)
    · rintro (⟨-, -, -, same⟩ | ⟨⟨clause, -, ends⟩, -⟩)
      · exact absurd same (by decide)
      · exact absurd ⟨clause, ends.symm⟩ (show ¬ fromWord <:+ trimEnd " + ".toList by decide)
  exact document_of_quotations setting quoted (mt HasWord.isInfix (by decide +kernel))
    (mt HasWord.isInfix (by decide +kernel)) (by decide +kernel)
    fun opening others suffix _ => apart.suffix suffix

/-- **A source that is misread.** The closing quote of the first quotation is taken for the one in front
of a module name, and the code between the two quotations for that name. -/
theorem document_changes_quotations :
    let setting : Setting := ⟨⟨[], []⟩, ⟨none, none⟩, ["log".toList]⟩
    let source := "x = 'import ' + 'y'".toList
    let changed := "x = 'require(' + ')y'".toList
    (∃ code quotations, ImportsQuoted source code quotations) ∧ ¬ HasWord "require".toList source ∧
      ¬ HasWord "console".toList source ∧
      (∀ line ∈ (physicalLines source).tail, startsWithDot line = false) ∧
      (document setting source).toOption = some (changed, [Stage.imports.changedRecord]) ∧
      changed ≠ source := by
  intro setting source changed
  let quotations : List Quotation :=
    [⟨'\'', "import ".toList, " + ".toList, by decide, simple_of_all (by decide), by decide⟩,
      ⟨'\'', "y".toList, [], by decide, simple_of_all (by decide), List.forall_mem_nil _⟩]
  have lacks : ∀ quotation ∈ quotations, ¬ "import".toList <:+: quotation.code := by decide +kernel
  have quoted : ImportsQuoted source "x = ".toList quotations :=
    ⟨by decide +kernel, by decide, mt HasWord.isInfix (by decide +kernel),
      fun quotation member => mt HasWord.isInfix (lacks quotation member)⟩
  exact ⟨⟨_, _, quoted⟩, mt HasWord.isInfix (by decide +kernel), mt HasWord.isInfix (by decide +kernel),
    by decide +kernel, by decide +kernel, by decide +kernel⟩

end Marginalia
