import Marginalia.Proofs.File.Paths
import Marginalia.Proofs.Preparation.RequireCalls

/-! # Paths of modules
A call is pointed at a path that starts at the root and has no parenthesis, if the project and the document
have such paths (`PlainPath`, `plain_of_resolve`). Whatever call is read at its place then names its module by
an absolute path, and stays as it is; no other calls come about. So the calls of a text that is pointed stay
as they are (`atRest_of_resolveRequires`). -/

namespace Marginalia.Preparation

open Text File

/-! ## Paths in calls -/

/-- A path that starts at the root and has no parenthesis that could be taken for that of a call. -/
structure PlainPath (path : Path) : Prop where
  /-- The path starts at the root. -/
  rooted : path.root.head? = some '/'
  /-- The root has no parenthesis. -/
  root : '(' ∉ path.root
  /-- The names have no parenthesis. -/
  names : ∀ name ∈ path.names, '(' ∉ name

theorem PlainPath.lacks {path : Path} (plain : PlainPath path) : path.Lacks '(' := ⟨plain.root, plain.names⟩

theorem PlainPath.of_lacks {path : Path} (rooted : path.root.head? = some '/') (lacks : path.Lacks '(') :
    PlainPath path := ⟨rooted, lacks.root, lacks.names⟩

/-- A text that starts with a slash and has no parenthesis is read as such a path. -/
theorem plainPath_ofText {text : List Char} (rooted : text.head? = some '/') (noBracket : '(' ∉ text) :
    PlainPath (.ofText text) := by
  refine .of_lacks ?_ (Path.lacks_ofText noBracket)
  show (rootOf text).head? = some '/'
  rcases rootOf_of_eq rooted with root | root <;> rw [root] <;> rfl

/-- A text that does not start with a slash is read as a path without a root. -/
theorem root_ofText {text : List Char} (relative : text.head? ≠ some '/') : (Path.ofText text).root = [] :=
  rootOf_of_ne relative

variable {path : Path}

/-- A relative path behind such a path. -/
theorem PlainPath.join (plain : PlainPath path) {other : Path} (relative : other.root = [])
    (lacks : other.Lacks '(') : PlainPath (path.join other) := by
  refine .of_lacks ?_ (plain.lacks.join lacks)
  rw [Path.join, Path.isAbsolute, relative]
  exact plain.rooted

/-- The directory of such a path. -/
theorem PlainPath.parent (plain : PlainPath path) : PlainPath path.parent :=
  .of_lacks plain.rooted plain.lacks.parent

/-- Such a path stays one when its names are taken together with those above. -/
theorem PlainPath.normalize (plain : PlainPath path) : PlainPath path.normalize :=
  .of_lacks plain.rooted plain.lacks.normalize

/-- The text of such a path starts with a slash and has no parenthesis. -/
theorem PlainPath.text (plain : PlainPath path) : path.text.head? = some '/' ∧ '(' ∉ path.text := by
  obtain ⟨others, root⟩ := List.head?_eq_some_iff.mp plain.rooted
  refine ⟨?_, plain.lacks.not_mem_text (by decide) (by decide)⟩
  rw [Path.text, Path.joinText, root]
  rfl

/-! ## Where modules are found -/

/-- What is read off a result as an option is the value that came out. -/
theorem toOption_eq_some_iff {problem α : Type} {result : Except problem α} {value : α} :
    result.toOption = some value ↔ result = .ok value := by
  cases result with
  | error => simp [Except.toOption]
  | ok => simp [Except.toOption]

variable {tree : Tree} {context : Module.Context}

/-- A path is the first of some paths at which something stands, with or without an extension. -/
def IsFirst (tree : Tree) (paths : List Path) (path : Path) : Prop :=
  ∃ before after, paths = before ++ path :: after ∧ (∀ other ∈ before, Module.isPresent tree other = .ok false) ∧
    Module.isPresent tree path = .ok true

theorem IsFirst.mem {paths : List Path} (first : IsFirst tree paths path) : path ∈ paths := by
  obtain ⟨before, after, rfl, -, -⟩ := first
  exact List.mem_append_right before List.mem_cons_self

/-- The module that is found is the first of those that are looked for. -/
theorem firstPresent_eq_some_iff {paths : List Path} :
    Module.firstPresent tree paths = .ok (some path) ↔ IsFirst tree paths path := by
  induction paths with
  | nil =>
    refine iff_of_false nofun ?_
    rintro ⟨before, after, parts, -⟩
    exact absurd parts.symm (List.append_ne_nil_of_right_ne_nil _ (List.cons_ne_nil _ _))
  | cons first paths ih =>
    rw [Module.firstPresent]
    constructor
    · intro found
      cases present : Module.isPresent tree first with
      | error => simp [present, bind, Except.bind] at found
      | ok isThere =>
        -- A place that cannot be looked up ends the search, so nothing stands at the places before.
        simp only [present, bind, Except.bind, pure, Except.pure] at found
        cases isThere with
        | true =>
          cases found
          exact ⟨[], paths, rfl, List.forall_mem_nil _, present⟩
        | false =>
          obtain ⟨before, after, rfl, absent, isThere⟩ := ih.mp found
          exact ⟨first :: before, after, rfl, List.forall_mem_cons.mpr ⟨present, absent⟩, isThere⟩
    · rintro ⟨before, after, parts, absent, isThere⟩
      cases before with
      | nil =>
        obtain ⟨rfl, -⟩ := List.cons.inj parts
        simp only [isThere, bind, Except.bind, pure, Except.pure, if_true]
      | cons other before =>
        obtain ⟨rfl, rfl⟩ := List.cons.inj parts
        obtain ⟨none, absent⟩ := List.forall_mem_cons.mp absent
        simp only [none, bind, Except.bind, Bool.false_eq_true, if_false]
        exact ih.mpr ⟨before, after, rfl, absent, isThere⟩

/-- An absolute name stays as it is. -/
theorem resolve_of_rooted {name : List Char} (rooted : name.head? = some '/') :
    Module.resolve tree context name = .ok none := by
  rw [Module.resolve, if_pos]
  simp [Module.isAbsolute, rooted]

/-- The places at which a module is looked for; those beside the document and in the project are for names with a
separator. -/
theorem candidate_cases {name : List Char} (candidate : path ∈ Module.candidates context name) :
    (∃ base ∈ context.base, path = (base.join Module.installedDirectory).join (.ofText name)) ∨
      Module.hasSeparator name = true ∧
        ((∃ document ∈ context.document, path = document.parent.join (.ofText name)) ∨
          ∃ base ∈ context.base, path = base.join (.ofText name)) := by
  have installed (known : path ∈ context.base.toList.map fun base =>
      (base.join Module.installedDirectory).join (.ofText name)) :
      ∃ base ∈ context.base, path = (base.join Module.installedDirectory).join (.ofText name) := by
    obtain ⟨base, given, rfl⟩ := List.mem_map.mp known
    exact ⟨base, Option.mem_toList.mp given, rfl⟩
  rw [Module.candidates] at candidate
  split at candidate
  · next apart =>
    rcases List.mem_append.mp candidate with front | inProject
    · rcases List.mem_append.mp front with known | beside
      · exact .inl (installed known)
      · obtain ⟨document, given, rfl⟩ := List.mem_map.mp beside
        exact .inr ⟨apart, .inl ⟨document, Option.mem_toList.mp given, rfl⟩⟩
    · obtain ⟨base, given, rfl⟩ := List.mem_map.mp inProject
      exact .inr ⟨apart, .inr ⟨base, Option.mem_toList.mp given, rfl⟩⟩
  · exact .inl (installed candidate)

/-- A module is found if it is neither built in nor absolute and something stands at one of the places at which it
is looked for; the first of these is its path, with the names above taken together. -/
theorem resolve_eq_some_iff {name found : List Char} :
    Module.resolve tree context name = .ok (some found) ↔
      ¬ (Module.isBuiltin name || Module.isAbsolute name) = true ∧
        ∃ path, IsFirst tree (Module.candidates context name) path ∧ found = path.normalize.text := by
  rw [Module.resolve]
  split
  · next stays => exact iff_of_false nofun fun known => known.1 stays
  · next looked =>
    rw [and_iff_right looked]
    constructor
    · intro resolved
      cases first : Module.firstPresent tree (Module.candidates context name) with
      | error => simp [first, bind, Except.bind] at resolved
      | ok path =>
        cases path with
        | none => simp [first, bind, Except.bind, pure, Except.pure] at resolved
        | some path =>
          simp only [first, bind, Except.bind, pure, Except.pure, Option.map_some] at resolved
          cases resolved
          exact ⟨path, firstPresent_eq_some_iff.mp first, rfl⟩
    · rintro ⟨path, isFirst, rfl⟩
      simp only [firstPresent_eq_some_iff.mpr isFirst, bind, Except.bind, pure, Except.pure, Option.map_some]

/-- A module that is found is neither built in nor absolute, and is one of the places at which it is looked
for. -/
theorem exists_of_resolve {name found : List Char}
    (resolved : Module.resolve tree context name = .ok (some found)) :
    ¬ (Module.isBuiltin name || Module.isAbsolute name) = true ∧
      ∃ path ∈ Module.candidates context name, found = path.normalize.text := by
  obtain ⟨stays, path, first, same⟩ := resolve_eq_some_iff.mp resolved
  exact ⟨stays, path, first.mem, same⟩

/-- A module is found at such a path, if the paths of the project and of the document are such. -/
theorem plain_of_resolve (base : ∀ path ∈ context.base, PlainPath path)
    (document : ∀ path ∈ context.document, PlainPath path) {name found : List Char} (noBracket : '(' ∉ name)
    (resolved : Module.resolve tree context name = .ok (some found)) :
    found.head? = some '/' ∧ '(' ∉ found := by
  obtain ⟨stays, path, candidate, rfl⟩ := exists_of_resolve resolved
  have relative : (Path.ofText name).root = [] :=
    root_ofText fun slash => stays (by simp [Module.isAbsolute, slash])
  have lacks : (Path.ofText name).Lacks '(' := Path.lacks_ofText noBracket
  have installed : Module.installedDirectory.Lacks '(' := Path.lacks_ofText (by decide)
  have plain : PlainPath path := by
    rcases candidate_cases candidate with
      ⟨project, known, rfl⟩ | ⟨-, ⟨file, known, rfl⟩ | ⟨project, known, rfl⟩⟩
    · exact ((base project known).join (by decide) installed).join relative lacks
    · exact (document file known).parent.join relative lacks
    · exact (base project known).join relative lacks
  exact plain.normalize.text

/-- A character that is neither in the name of a module nor in the paths of the project and of the document
is not in the path of the module. -/
theorem not_mem_of_resolve {c : Char} (outside : c ∉ "node_modules/.".toList)
    (base : ∀ path ∈ context.base, path.Lacks c) (document : ∀ path ∈ context.document, path.Lacks c)
    {name found : List Char} (absent : c ∉ name)
    (resolved : Module.resolve tree context name = .ok (some found)) : c ∉ found := by
  obtain ⟨-, path, candidate, rfl⟩ := exists_of_resolve resolved
  have beyond {d : Char} (inside : d ∈ "node_modules/.".toList) : c ≠ d := fun same => outside (same ▸ inside)
  have names : (Path.ofText name).Lacks c := Path.lacks_ofText absent
  have installed : Module.installedDirectory.Lacks c :=
    Path.lacks_ofText fun member => outside (List.mem_append_left "/.".toList member)
  have lacks : path.Lacks c := by
    rcases candidate_cases candidate with
      ⟨project, known, rfl⟩ | ⟨-, ⟨file, known, rfl⟩ | ⟨project, known, rfl⟩⟩
    · exact ((base project known).join installed).join names
    · exact (document file known).parent.join names
    · exact (base project known).join names
  exact lacks.normalize.not_mem_text (beyond (by decide)) (beyond (by decide))

/-! ## Calls for paths -/

/-- Reading backslashes singly brings in no other characters. -/
theorem mem_of_mem_unescapeBackslashes {text : List Char} {c : Char}
    (member : c ∈ unescapeBackslashes text) : c ∈ text := by
  fun_induction unescapeBackslashes text with
  | case1 rest ih =>
    rcases List.mem_cons.mp member with rfl | later
    · exact List.mem_cons_self
    · exact List.mem_cons_of_mem _ (List.mem_cons_of_mem _ (ih later))
  | case2 d rest other ih =>
    rcases List.mem_cons.mp member with rfl | later
    · exact List.mem_cons_self
    · exact List.mem_cons_of_mem d (ih later)
  | case3 => exact member

/-- Writing backslashes twice brings in no other characters. -/
theorem mem_of_mem_escapeBackslashes {text : List Char} {c : Char} (member : c ∈ escapeBackslashes text) :
    c ∈ text := by
  obtain ⟨d, known, inside⟩ := List.mem_flatMap.mp member
  split at inside
  · next slash =>
    obtain rfl : c = d := by simpa [slash] using inside
    exact known
  · exact List.mem_singleton.mp inside ▸ known

/-- The name of a module that a call requires has no other characters than such names have. -/
theorem IsRequire.not_mem_name {call : RequireCall} {written : List Char} (isCall : IsRequire call written)
    {c : Char} (outside : isRequiredChar c = false) : c ∉ call.name := by
  intro member
  rw [isCall.all c (mem_of_mem_unescapeBackslashes member)] at outside
  cases outside

/-- The text put in place of a call, with its parenthesis and its quotes in sight. -/
theorem render_eq (call : RequireCall) (path : List Char) : call.render path = "require".toList ++ [] ++
    '(' :: call.quote :: (escapeBackslashes path ++ [call.quote, ')']) := by
  have word : "require(".toList = "require".toList ++ ['('] := by decide
  unfold RequireCall.render
  rw [word]
  simp only [List.append_assoc, List.nil_append, List.cons_append]

/-- The text put in place of a call is of the shape of one. -/
theorem IsRequire.enclosed_render {call : RequireCall} {written : List Char} (isCall : IsRequire call written)
    {path : List Char} (noBracket : '(' ∉ path) : Enclosed (call.render path) := by
  refine ⟨[], _, List.forall_mem_nil _, ?_, ?_, render_eq call path⟩
  · have isQuote : '(' ≠ call.quote := by
      intro same
      have quoted := isCall.quoted
      rw [← same] at quoted
      exact absurd quoted (by decide)
    have inPath : '(' ∉ escapeBackslashes path := mt mem_of_mem_escapeBackslashes noBracket
    simp [isQuote, inPath]
  · simp [List.getLast?_cons]

/-- A call that is read where a call was pointed at an absolute path requires a module by such a path. -/
theorem IsRequire.rooted_of_render {call other : RequireCall} {written new : List Char}
    (isCall : IsRequire call written) (isOther : IsRequire other new) {path after behind : List Char}
    (rooted : path.head? = some '/') (parts : call.render path ++ after = new ++ behind) :
    other.name.head? = some '/' := by
  obtain ⟨names, rfl⟩ := List.head?_eq_some_iff.mp rooted
  obtain ⟨-, something, -, first, second, third, blankFirst, blankSecond, -, rfl⟩ := isOther
  obtain ⟨quote, name⟩ := other
  obtain ⟨c, letters, rfl⟩ := List.exists_cons_of_ne_nil something
  have escaped : escapeBackslashes ('/' :: names) = '/' :: escapeBackslashes names := rfl
  have noBlank : Blank [] := List.forall_mem_nil _
  rw [render_eq, escaped] at parts
  -- Both go on in the same way from the word on: the parenthesis, the quote, the name.
  have parts : "require".toList ++ [] ++ '(' :: (call.quote :: '/' :: (escapeBackslashes names ++
      ([call.quote, ')'] ++ after))) = "require".toList ++ first ++ '(' :: (second ++ quote :: (c ::
        (letters ++ quote :: (third ++ [')'])) ++ behind)) := by simpa using parts
  have word := eq_of_append_cons (not_mem_word noBlank (by decide) (by decide))
    (not_mem_word blankFirst (by decide) (by decide)) parts
  rw [word] at parts
  obtain ⟨-, inside⟩ := List.cons.inj (List.append_cancel_left parts)
  cases second with
  | nil =>
    obtain ⟨-, inside⟩ := List.cons.inj inside
    obtain ⟨rfl, -⟩ := List.cons.inj inside
    rfl
  | cons b second =>
    obtain ⟨rfl, -⟩ := List.cons.inj inside
    exact absurd List.mem_cons_self (blankSecond.not_mem (isBlank_of_isQuote isCall.quoted))

/-! ## Calls that are pointed -/

/-- What stands in the place of a call after it is pointed at the path of its module, if it is. -/
def pointedCall (tree : Tree) (context : Module.Context) (written : List Char) (call : RequireCall) : List Char :=
  match Module.resolve tree context call.name with
  | .ok (some path) => call.render path
  | _ => written

/-- A piece in front of others is pointed if the module of its call, if it is one, can be looked up and the
others are pointed. -/
theorem exists_of_resolvePieces_cons {piece : Piece RequireCall} {pieces : List (Piece RequireCall)}
    {pointed : List Char} {logs : List Log.Record}
    (done : resolvePieces tree context (piece :: pieces) = .ok (pointed, logs)) :
    (∀ written call, piece = .construct written call →
        ∃ found, Module.resolve tree context call.name = .ok found) ∧
      ∃ rest others, resolvePieces tree context pieces = .ok (rest, others) ∧
        pointed = piece.shown (pointedCall tree context) ++ rest := by
  cases piece with
  | char c =>
    cases later : resolvePieces tree context pieces with
    | error => simp [resolvePieces, later, bind, Except.bind] at done
    | ok result =>
      simp only [resolvePieces, later, bind, Except.bind, pure, Except.pure] at done
      cases done
      exact ⟨(fun written call same => by cases same), _, _, rfl, rfl⟩
  | construct written call =>
    cases resolved : Module.resolve tree context call.name with
    | error => simp [resolvePieces, resolved, bind, Except.bind] at done
    | ok found =>
      cases later : resolvePieces tree context pieces with
      | error => simp [resolvePieces, resolved, later, bind, Except.bind] at done
      | ok result =>
        simp only [resolvePieces, resolved, later, bind, Except.bind, pure, Except.pure] at done
        refine ⟨?_, result.1, result.2, rfl, ?_⟩
        · rintro _ _ ⟨⟩
          exact ⟨found, resolved⟩
        · cases found <;> cases done <;> simp [pointedCall, resolved]

/-! ## Calls that stay -/

/-- Every call of a text, given the character before the text, requires a module whose name is to stay as it
is. -/
def AtRest (tree : Tree) (context : Module.Context) (before : Option Char) (text : List Char) : Prop :=
  ∀ front call written after, text = front ++ (written ++ after) → IsRequire call written →
    mayStartKeyword (front.getLast?.or before) = true → Module.resolve tree context call.name = .ok none

/-- What stands behind some text, given the last character of that text. -/
theorem AtRest.of_append {before : Option Char} {first text : List Char}
    (rest : AtRest tree context before (first ++ text)) (something : first ≠ []) :
    AtRest tree context first.getLast? text := by
  intro front call written after parts isCall starts
  refine rest (first ++ front) call written after (by rw [parts, List.append_assoc]) isCall ?_
  obtain ⟨start, c, rfl⟩ := (List.eq_nil_or_concat first).resolve_left something
  rw [List.concat_eq_append, List.getLast?_concat] at starts
  rwa [List.getLast?_append, List.concat_eq_append, List.getLast?_concat, Option.or_assoc, Option.some_or]

/-- Calls are read from the front of a text. -/
theorem readsFront_readRequire : Recogniser.ReadsFront readRequire := by
  intro before text call after read
  obtain ⟨-, written, isCall, parts⟩ := exists_of_readRequire read
  obtain ⟨others, rfl⟩ := isCall.head
  exact ⟨_, List.cons_ne_nil _ _, parts⟩

/-- What is read as a call is the text of one. -/
theorem isRequire_of_read {before : Option Char} {call : RequireCall} {written after : List Char}
    (read : readRequire before (written ++ after) = some (call, after)) :
    mayStartKeyword before = true ∧ IsRequire call written := by
  obtain ⟨starts, other, isCall, parts⟩ := exists_of_readRequire read
  exact ⟨starts, List.append_cancel_right parts ▸ isCall⟩

/-- **Nothing to point.** A text whose calls require modules with names to stay is left as it is. -/
theorem AtRest.resolveRequires {text : List Char} (rest : AtRest tree context none text) :
    resolveRequires tree context text = .ok (text, []) := by
  have general : ∀ before text, AtRest tree context before text →
      resolvePieces tree context (scan readRequire before text) = .ok (text, []) := by
    intro before text
    induction before, text using readsFront_readRequire.induction with
    | nil before =>
      intro _
      rw [scan_nil]
      rfl
    | char before c text nothing ih =>
      intro rest
      have whole : AtRest tree context before ([c] ++ text) := rest
      have later := ih (whole.of_append (List.cons_ne_nil c []))
      rw [scan_cons_of_none nothing, resolvePieces, later]
      rfl
    | construct before written call after something read ih =>
      intro rest
      obtain ⟨starts, isCall⟩ := isRequire_of_read read
      have stays := rest [] call written after rfl isCall starts
      rw [scan_append_of_some something read, resolvePieces, stays, ih (rest.of_append something)]
      rfl
  exact general none text rest

/-- Texts with their calls pointed at the paths of their modules. -/
inductive Pointed (tree : Tree) (context : Module.Context) : Option Char → List Char → List Char → Prop where
  /-- The empty text. -/
  | nil {before : Option Char} : Pointed tree context before [] []
  /-- A character at which no call is read. -/
  | char {before : Option Char} {c : Char} {text pointed : List Char}
      (nothing : readRequire before (c :: text) = none) (rest : Pointed tree context (some c) text pointed) :
      Pointed tree context before (c :: text) (c :: pointed)
  /-- A call, and a text of its shape in its place; whatever call is read there has a name to stay. -/
  | call {before : Option Char} {call : RequireCall} {written new text pointed : List Char}
      (isCall : IsRequire call written) (enclosed : Enclosed new)
      (stays : ∀ {other place after behind}, IsRequire other place → new ++ after = place ++ behind →
        Module.resolve tree context other.name = .ok none)
      (rest : Pointed tree context (some ')') text pointed) :
      Pointed tree context before (written ++ text) (new ++ pointed)

/-- An end of a call in front of the text that is pointed stood in front of the text before. -/
theorem Pointed.isPrefix_of_end {before : Option Char} {text pointed : List Char}
    (points : Pointed tree context before text pointed) {call : RequireCall} {written : List Char}
    (isCall : IsRequire call written) {part : List Char} (ends : part <:+ written) (shorter : part ≠ written)
    (inside : part <+: pointed) : part <+: text := by
  induction points generalizing part with
  | nil => exact inside
  | char nothing rest ih =>
    rcases List.prefix_cons_iff.mp inside with rfl | ⟨others, rfl, later⟩
    · exact List.nil_prefix
    · have inWritten : others <:+ written := (List.suffix_cons _ _).trans ends
      refine (List.prefix_cons_inj _).mpr (ih inWritten ?_ later)
      rintro rfl
      exact absurd ends.length_le (by simp)
  | call _ enclosed =>
    by_cases something : part = []
    · exact something ▸ List.nil_prefix
    · exact absurd inside (isCall.not_isPrefix_of_end enclosed ends something shorter _)

/-- The calls of a text that is pointed stay as they are. -/
theorem Pointed.atRest {before : Option Char} {text pointed : List Char}
    (points : Pointed tree context before text pointed) : AtRest tree context before pointed := by
  induction points with
  | nil =>
    intro front call written after parts isCall _
    obtain ⟨others, rfl⟩ := isCall.head
    simp at parts
  | @char before c text pointed nothing rest ih =>
    intro front call written after parts isCall starts
    cases front with
    | nil =>
      obtain ⟨others, rfl⟩ := isCall.head
      obtain ⟨rfl, behind⟩ := List.cons.inj parts
      have shorter : others ≠ 'r' :: others := fun same => by simpa using congrArg List.length same
      obtain ⟨tail, rfl⟩ :=
        rest.isPrefix_of_end isCall (List.suffix_cons _ _) shorter ⟨after, behind.symm⟩
      have read : readRequire before ('r' :: others ++ tail) = some (call, tail) := isCall.read starts tail
      rw [List.cons_append, nothing] at read
      cases read
    | cons d front =>
      obtain ⟨rfl, behind⟩ := List.cons.inj parts
      refine ih front call written after behind isCall ?_
      rwa [List.getLast?_cons, Option.some_or, ← Option.or_some] at starts
  | @call before call written new text pointed _ enclosed stays rest ih =>
    intro front other place after parts isOther starts
    have last := enclosed.getLast?_of_suffix (List.suffix_refl _) enclosed.ne_nil
    rcases parts_of_append parts with ⟨later, rfl, behind⟩ | ⟨others, something, inCall, behind⟩
    · refine ih later other place after behind isOther ?_
      rwa [List.getLast?_append, last, Option.or_assoc, Option.some_or] at starts
    · by_cases whole : others = new
      · exact stays isOther (whole ▸ behind.symm)
      · exact absurd ⟨after, behind⟩
          (isOther.not_isPrefix_of_suffix enclosed inCall something whole pointed)

/-- What stands in the place of a call that is pointed at the path of its module is of the shape of a call,
and whatever call is read there has a name to stay. -/
theorem enclosed_pointedCall (base : ∀ path ∈ context.base, PlainPath path)
    (document : ∀ path ∈ context.document, PlainPath path) {call : RequireCall} {written : List Char}
    (isCall : IsRequire call written) {found : Option (List Char)}
    (resolved : Module.resolve tree context call.name = .ok found) :
    Enclosed (pointedCall tree context written call) ∧ ∀ {other place after behind}, IsRequire other place →
      pointedCall tree context written call ++ after = place ++ behind →
        Module.resolve tree context other.name = .ok none := by
  rw [pointedCall, resolved]
  cases found with
  | none =>
    refine ⟨isCall.enclosed, fun {other place after behind} isOther same => ?_⟩
    have starts : mayStartKeyword none = true := rfl
    have read := isCall.read starts after
    rw [show written ++ after = place ++ behind from same, isOther.read starts behind] at read
    cases read
    exact resolved
  | some path =>
    obtain ⟨rooted, noBracket⟩ :=
      plain_of_resolve base document (isCall.not_mem_name (by decide)) resolved
    exact ⟨isCall.enclosed_render noBracket, fun isOther same =>
      resolve_of_rooted (isCall.rooted_of_render isOther rooted same)⟩

/-- Pointing the calls of a text points them. -/
theorem pointed_of_resolvePieces (base : ∀ path ∈ context.base, PlainPath path)
    (document : ∀ path ∈ context.document, PlainPath path) {before : Option Char} {text pointed : List Char}
    {logs : List Log.Record}
    (done : resolvePieces tree context (scan readRequire before text) = .ok (pointed, logs)) :
    Pointed tree context before text pointed := by
  induction before, text using readsFront_readRequire.induction generalizing pointed logs with
  | nil before =>
    rw [scan_nil] at done
    cases done
    exact .nil
  | char before c text nothing ih =>
    rw [scan_cons_of_none nothing] at done
    obtain ⟨-, rest, others, later, rfl⟩ := exists_of_resolvePieces_cons done
    exact .char nothing (ih later)
  | construct before written call after something read ih =>
    obtain ⟨-, isCall⟩ := isRequire_of_read read
    have last := isCall.enclosed.getLast?_of_suffix (List.suffix_refl _) something
    rw [scan_append_of_some something read] at done
    obtain ⟨known, rest, others, later, rfl⟩ := exists_of_resolvePieces_cons done
    obtain ⟨found, resolved⟩ := known written call rfl
    obtain ⟨enclosed, stays⟩ := enclosed_pointedCall base document isCall resolved
    have points := ih later
    rw [last] at points
    exact .call isCall enclosed stays points

/-- **Pointed calls stay.** Where the paths of the project and of the document start at the root and have no
parenthesis, the calls of a text that is pointed stay as they are. -/
theorem atRest_of_resolveRequires (base : ∀ path ∈ context.base, PlainPath path)
    (document : ∀ path ∈ context.document, PlainPath path) {text pointed : List Char} {logs : List Log.Record}
    (done : resolveRequires tree context text = .ok (pointed, logs)) : AtRest tree context none pointed :=
  (pointed_of_resolvePieces base document done).atRest

end Marginalia.Preparation
