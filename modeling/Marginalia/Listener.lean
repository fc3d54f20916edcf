/-! # Listeners
A listener receives what others publish: the annotations of a margin, or the failures of a host. One that
fails has received what it failed on. -/

namespace Marginalia

/-- A receiver of what is published. -/
structure Listener where
  /-- The name it is known by. -/
  name : String
  /-- Whether it fails whenever it receives something. -/
  fails : Bool
  deriving DecidableEq, Repr

end Marginalia
