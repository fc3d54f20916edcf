import Marginalia.Proofs.Preparation.LineFeeds
import Marginalia.Proofs.Script.Literals

/-! # Arguments of calls
A call that is pointed at the path of its module gets the path as its argument, between the quotes of the call and
with its backslashes doubled. That argument is a literal for the path exactly if the path holds neither the quote nor
a bare break of the line (`resolved_arguments_denote_paths`). No name of a module has such a character, so each of
them comes from the path of the project or of the document. -/

namespace Marginalia.Preparation

open Text File Script Json

/-- The argument of a call for the path of its module. -/
def RequireCall.argument (call : RequireCall) (path : List Char) : List Char :=
  call.quote :: (escapeBackslashes path ++ [call.quote])

/-- The argument stands between the parentheses of the call. -/
theorem RequireCall.render_eq_argument (call : RequireCall) (path : List Char) :
    call.render path = "require(".toList ++ (call.argument path ++ [')']) := by
  have parts : call.quote :: (escapeBackslashes path ++ [call.quote, ')']) = call.argument path ++ [')'] := by
    simp [RequireCall.argument]
  unfold RequireCall.render
  rw [parts]

/-- The argument of a call is a literal for the path, whatever stands behind it, exactly if the path holds neither
the quote nor a bare break of the line. -/
theorem IsRequire.readString_argument_iff {call : RequireCall} {written : List Char} (isCall : IsRequire call written)
    (path rest : List Char) :
    readString (call.argument path ++ rest) = some (path.flatMap unitsOf, rest) ↔
      call.quote ∉ path ∧ '\n' ∉ path ∧ '\r' ∉ path := by
  have parts : call.argument path ++ rest = call.quote :: (escapeBackslashes path ++ call.quote :: rest) := by
    simp [RequireCall.argument]
  rw [parts, readString, if_pos isCall.quoted]
  exact readLiteral_escapeBackslashes_iff isCall.quoted path rest

variable {tree : Tree} {context : Module.Context}

/-- A character of a resolved path that stands in no name of a module comes from one of the paths that are given. -/
theorem IsRequire.mem_of_resolve {call : RequireCall} {written : List Char} (isCall : IsRequire call written)
    {c : Char} (outside : isRequiredChar c = false) (foreign : c ∉ "node_modules/.".toList) {path : List Char}
    (resolved : Module.resolve tree context call.name = .ok (some path)) (member : c ∈ path) :
    ∃ given, (given ∈ context.base ∨ given ∈ context.document) ∧ c ∈ given.text := by
  refine Classical.byContradiction fun nowhere => ?_
  have absent (given : Path) (known : given ∈ context.base ∨ given ∈ context.document) : given.Lacks c :=
    Path.lacks_of_not_mem_text fun inside => nowhere ⟨given, known, inside⟩
  exact not_mem_of_resolve foreign (fun given known => absent given (.inl known))
    (fun given known => absent given (.inr known)) (isCall.not_mem_name outside) resolved member

end Marginalia.Preparation

namespace Marginalia

open Text File Script Json Preparation

/-- **Arguments denote paths.** A text that is pointed is the text with each call whose module is found replaced by
one with the path of the module for its argument. The argument is one whole literal for exactly that path, whatever
stands behind it, if and only if the path holds neither the quote that was kept nor a bare break of the line; and
each of these comes from the path of the project or of the document. -/
theorem resolved_arguments_denote_paths (tree : Tree) (context : Module.Context) {text pointed : List Char}
    {logs : List Log.Record} (done : resolveRequires tree context text = .ok (pointed, logs)) :
    pointed = (scan readRequire none text).flatMap (Piece.shown (pointedCall tree context)) ∧
      ∀ written call path, .construct written call ∈ scan readRequire none text →
        Module.resolve tree context call.name = .ok (some path) →
          IsRequire call written ∧
          pointedCall tree context written call = "require(".toList ++ (call.argument path ++ [')']) ∧
          (∀ rest, readString (call.argument path ++ rest) = some (path.flatMap unitsOf, rest) ↔
            call.quote ∉ path ∧ '\n' ∉ path ∧ '\r' ∉ path) ∧
          ∀ c ∈ [call.quote, '\n', '\r'], c ∈ path →
            ∃ given, (given ∈ context.base ∨ given ∈ context.document) ∧ c ∈ given.text := by
  refine ⟨eq_of_resolvePieces done, fun written call path member resolved => ?_⟩
  obtain ⟨before, after, read⟩ := read_of_mem_scan readsFront_readRequire member
  have isCall := (isRequire_of_read read).2
  have pointed : pointedCall tree context written call = call.render path := by rw [pointedCall, resolved]
  refine ⟨isCall, pointed.trans (call.render_eq_argument path), isCall.readString_argument_iff path,
    fun c breaks => ?_⟩
  -- None of the three stands in the name of a module or in what resolving it puts around.
  have known : isRequiredChar c = false ∧ c ∉ "node_modules/.".toList := by
    have quoted := isCall.quoted
    simp only [List.mem_cons, List.not_mem_nil, or_false] at breaks
    rcases breaks with rfl | rfl | rfl
    · refine ⟨isRequiredChar_of_isQuote quoted, fun inside => ?_⟩
      have unquoted : ∀ d ∈ "node_modules/.".toList, (!isQuote d) = true := List.all_eq_true.mp (by decide)
      simpa [quoted] using unquoted _ inside
    · decide
    · decide
  exact isCall.mem_of_resolve known.1 known.2 resolved

/-- A project whose name has a backslash and the other quote. -/
theorem resolved_arguments_denote_paths_of_backslash :
    let tree : Tree := ⟨[((Path.ofText "it's\\p/node_modules/x".toList).names, .file)], []⟩
    let context : Module.Context := ⟨some (.ofText "it's\\p".toList), none⟩
    let call : RequireCall := ⟨'"', ['x']⟩
    let path := "it's\\p/node_modules/x".toList
    let pointed := "require(\"it's\\\\p/node_modules/x\")".toList
    resolveRequires tree context "require( \"x\")".toList = .ok (pointed, [resolvedRecord ['x'] path]) ∧
      pointed = "require(".toList ++ (call.argument path ++ [')']) ∧
      readString (call.argument path ++ [')']) = some (path.flatMap unitsOf, [')']) := by
  intro tree context call path pointed
  have gives : (resolveRequires tree context "require( \"x\")".toList).toOption =
      some (pointed, [resolvedRecord ['x'] path]) := by decide +kernel
  have done := toOption_eq_some_iff.mp gives
  have member : .construct "require( \"x\")".toList call ∈ scan readRequire none "require( \"x\")".toList := by
    decide +kernel
  have found : (Module.resolve tree context call.name).toOption = some (some path) := by decide +kernel
  have denoted := (resolved_arguments_denote_paths tree context done).2 _ _ _ member (toOption_eq_some_iff.mp found)
  exact ⟨done, by decide, (denoted.2.2.1 [')']).mpr (by decide)⟩

/-- In a project whose name has the quote of the call, the literal ends within the path. -/
theorem resolved_argument_ends_early :
    let tree : Tree := ⟨[((Path.ofText "it's/node_modules/x".toList).names, .file)], []⟩
    let context : Module.Context := ⟨some (.ofText "it's".toList), none⟩
    let call : RequireCall := ⟨'\'', ['x']⟩
    let path := "it's/node_modules/x".toList
    (resolveRequires tree context "require('x')".toList).toOption.map (·.1) =
        some "require('it's/node_modules/x')".toList ∧
      (Module.resolve tree context call.name).toOption = some (some path) ∧
      call.argument path = "'it's/node_modules/x'".toList ∧
      readString (call.argument path) = some ("it".toList.flatMap unitsOf, "s/node_modules/x'".toList) ∧
      readString (call.argument path) ≠ some (path.flatMap unitsOf, []) := by
  decide +kernel

end Marginalia
