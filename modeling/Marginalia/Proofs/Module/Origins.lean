import Marginalia.Proofs.Preparation.ModulePaths

/-! # Where modules come from
A module that is found stands below the project or beside the document, and its path is absolute exactly if the
path that was given for the one or the other is. Absolute paths stay as they are, whatever files there are and
wherever a document is evaluated (`resolved_paths_follow_their_origin`). -/

namespace Marginalia.Module

open File Preparation

/-- Where a document is evaluated, by the paths of its project and of itself as they were written. -/
def Context.ofTexts (base document : Option (List Char)) : Context :=
  ⟨base.map Path.ofText, document.map Path.ofText⟩

/-- The places at which a module is looked for, each with the path that was given for it. -/
inductive Origin (base document : Option (List Char)) (name : List Char) : List Char → Path → Prop where
  /-- Among the installed modules of the project. -/
  | installed {given : List Char} (known : given ∈ base) :
    Origin base document name given (((Path.ofText given).join installedDirectory).join (.ofText name))
  /-- Beside the document, for a name with a separator. -/
  | beside {given : List Char} (known : given ∈ document) (apart : hasSeparator name = true) :
    Origin base document name given ((Path.ofText given).parent.join (.ofText name))
  /-- In the project, for a name with a separator. -/
  | inProject {given : List Char} (known : given ∈ base) (apart : hasSeparator name = true) :
    Origin base document name given ((Path.ofText given).join (.ofText name))

variable {base document : Option (List Char)} {name given : List Char} {path : Path}

/-- Every place at which a module is looked for has its origin. -/
theorem exists_origin (candidate : path ∈ candidates (.ofTexts base document) name) :
    ∃ given, Origin base document name given path := by
  have written {text : Option (List Char)} {place : Path} (known : place ∈ text.map Path.ofText) :
      ∃ given, given ∈ text ∧ Path.ofText given = place := Option.map_eq_some_iff.mp known
  rcases candidate_cases candidate with
    ⟨project, known, rfl⟩ | ⟨apart, ⟨file, known, rfl⟩ | ⟨project, known, rfl⟩⟩
  · obtain ⟨given, isBase, rfl⟩ := written known
    exact ⟨given, .installed isBase⟩
  · obtain ⟨given, isDocument, rfl⟩ := written known
    exact ⟨given, .beside isDocument apart⟩
  · obtain ⟨given, isBase, rfl⟩ := written known
    exact ⟨given, .inProject isBase apart⟩

/-- The path of a module is absolute exactly if the path that was given for its origin is. -/
theorem Origin.head?_text (origin : Origin base document name given path) (relative : name.head? ≠ some '/') :
    path.normalize.text.head? = some '/' ↔ given.head? = some '/' := by
  have names : (Path.ofText name).isAbsolute = false :=
    Bool.eq_false_iff.mpr fun absolute => relative ((Path.isAbsolute_ofText name).mp absolute)
  have below : installedDirectory.isAbsolute = false := by decide
  have proper : (Path.ofText name).Proper := Path.proper_ofText name
  have isProper : path.Proper := by
    cases origin with
    | installed => exact ((Path.proper_ofText given).join (Path.proper_ofText _)).join proper
    | beside => exact (Path.proper_ofText given).parent.join proper
    | inProject => exact (Path.proper_ofText given).join proper
  -- The name has no root, so the root is that of the given path, and taking names together keeps it.
  have same : path.isAbsolute = (Path.ofText given).isAbsolute := by
    cases origin with
    | installed => rw [Path.isAbsolute_join names, Path.isAbsolute_join below]
    | beside => exact Path.isAbsolute_join names
    | inProject => exact Path.isAbsolute_join names
  have kept : path.normalize.isAbsolute = path.isAbsolute := rfl
  rw [isProper.normalize.head?_text, kept, same, Path.isAbsolute_ofText]

end Marginalia.Module

namespace Marginalia

open Text File Preparation

/-- **Paths follow their origin.** The module that is found is the first of the places at which it is looked for
where something stands. Its path is absolute exactly if the one that was given for the project, or for the document
where it stands beside that, is absolute. An absolute path is not looked for again, whatever files there are and
wherever a document is evaluated: neither by its own name nor as the call that is pointed at it. -/
theorem resolved_paths_follow_their_origin (tree : Tree) (base document : Option (List Char))
    {name found : List Char} (resolved : Module.resolve tree (.ofTexts base document) name = .ok (some found)) :
    ∃ given path, Module.Origin base document name given path ∧
      IsFirst tree (Module.candidates (.ofTexts base document) name) path ∧ found = path.normalize.text ∧
      (found.head? = some '/' ↔ given.head? = some '/') ∧
      (given.head? = some '/' → ∀ (tree : Tree) (context : Module.Context),
        Module.resolve tree context found = .ok none ∧
        ∀ call written, IsRequire call written → call.name = name → ∀ again new after behind,
          IsRequire again new → call.render found ++ after = new ++ behind →
            pointedCall tree context new again = new) := by
  obtain ⟨stays, path, first, rfl⟩ := resolve_eq_some_iff.mp resolved
  have relative : name.head? ≠ some '/' := fun slash => stays (by simp [Module.isAbsolute, slash])
  obtain ⟨given, origin⟩ := Module.exists_origin first.mem
  have follows := origin.head?_text relative
  refine ⟨given, path, origin, first, rfl, follows, fun absolute tree context => ?_⟩
  have rooted : path.normalize.text.head? = some '/' := follows.mpr absolute
  refine ⟨resolve_of_rooted rooted, fun call written isCall _ again new after behind isAgain same => ?_⟩
  rw [pointedCall, resolve_of_rooted (isCall.rooted_of_render isAgain rooted same)]

/-- A module above the document, in a project at the root, and the call for it. -/
theorem resolved_path_stays_above_document :
    let tree : Tree := ⟨[([ "app".toList, "src".toList, "main.js".toList], .file),
      (["app".toList, "lib.js".toList], .file)], []⟩
    let context : Module.Context := .ofTexts (some "/app".toList) (some "/app/src/main.js".toList)
    let call : RequireCall := ⟨'\'', "/app/lib".toList⟩
    Module.resolve tree context "../lib".toList = .ok (some "/app/lib".toList) ∧
      Module.resolve tree context "/app/lib".toList = .ok none ∧
      pointedCall tree context "require('/app/lib')".toList call = "require('/app/lib')".toList := by
  intro tree context call
  have gives : (Module.resolve tree context "../lib".toList).toOption = some (some "/app/lib".toList) := by
    decide +kernel
  have resolved := toOption_eq_some_iff.mp gives
  obtain ⟨given, path, -, -, -, follows, stays⟩ := resolved_paths_follow_their_origin tree _ _ resolved
  obtain ⟨again, calls⟩ := stays (follows.mp rfl) tree context
  have isCall (written : List Char) (something : written ≠ [])
      (all : written.all isRequiredChar = true) : IsRequire ⟨'\'', written⟩
        ("require".toList ++ ([] ++ '(' :: ([] ++ '\'' :: (written ++ '\'' :: ([] ++ [')']))))) :=
    ⟨rfl, something, List.all_eq_true.mp all, [], [], [], List.forall_mem_nil _, List.forall_mem_nil _,
      List.forall_mem_nil _, rfl⟩
  have first := isCall "../lib".toList (by decide) (by decide)
  have second := isCall "/app/lib".toList (by decide) (by decide)
  exact ⟨resolved, again, calls _ _ first (by decide) call _ [] [] second (by decide)⟩

/-- In a project given by a relative path, the path of a module is relative, and is looked for once more. -/
theorem resolved_path_is_looked_for_again :
    let files := ["p/node_modules/x", "p/p/node_modules/x"].map fun name => (Path.ofText name.toList).names
    let tree : Tree := ⟨files.map (·, .file), []⟩
    let context : Module.Context := .ofTexts (some "p".toList) none
    (Module.resolve tree context "x".toList).toOption = some (some "p/node_modules/x".toList) ∧
      Module.isAbsolute "p/node_modules/x".toList = false ∧
      (Module.resolve tree context "p/node_modules/x".toList).toOption =
        some (some "p/p/node_modules/x".toList) := by
  decide +kernel

end Marginalia
