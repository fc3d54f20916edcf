/-! # Failures of a host
A host fails if it cannot be started or if it ends without being asked to. -/

namespace Marginalia

/-- The failure of a host. -/
inductive Failure where
  /-- The host could not be started. -/
  | notStarted (reason : String)
  /-- The host ended on its own, with an exit code if one is known and the last lines it wrote. -/
  | exited (text : String) (code : Option Int) (troubleText : String)
  deriving DecidableEq, Repr

namespace Failure

/-- The text of an exit code. -/
def codeText : Option Int → String
  | none => "None"
  | some code => toString code

/-- The failure of a host that ended with a code. -/
def ofExit (code : Option Int) (troubleText : String) : Failure :=
  .exited ("REPL host exited unexpectedly (code " ++ codeText code ++ ")") code troubleText

/-- The text of the failure. -/
def message : Failure → String
  | .notStarted reason => reason
  | .exited text _ _ => text

/-- The last lines that the host wrote; none if it never started. -/
def troubleText : Failure → String
  | .notStarted _ => ""
  | .exited _ _ text => text

end Failure

end Marginalia
