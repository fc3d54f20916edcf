import Marginalia.Script.Value

/-! # Promises
What became of the promises of a script, and of those that are made for objects to wait for. A promise is settled
once, with a value or with a reason. One that is resolved with another promise follows it, and one that is
resolved with an object that has a method of its own to wait by adopts it: neither can be decided by hand any
more, and the latter is decided by the object, which calls it back. A promise that was never mentioned is
pending. -/

namespace Marginalia.Script

/-- What a promise is known by. -/
inductive PromiseId where
  /-- By the number by which the script tells it. -/
  | told (number : Nat)
  /-- By its place among the promises that were made for objects to wait for. -/
  | made (number : Nat)
  deriving DecidableEq, Repr

/-- How a promise is settled. -/
inductive Settlement where
  /-- With a value. -/
  | fulfilled (value : Value)
  /-- With a reason. -/
  | rejected (reason : Value)
  /-- With something that cannot be described by itself: what is thrown then, and how it is shown where only the
  promise is described. -/
  | unreadable (shown : String) (thrown : Value)
  deriving Repr

/-- Where a promise stands. -/
inductive PromiseState where
  /-- Nothing is decided. -/
  | pending
  /-- It will be settled as another promise. -/
  | following (id : PromiseId)
  /-- It waits for an object to call back. -/
  | adopting
  /-- It is settled. -/
  | settled (settlement : Settlement)
  deriving Repr

namespace PromiseState

/-- Whether nothing is decided: the script may decide it. -/
def isPending : PromiseState → Bool
  | .pending => true
  | _ => false

/-- Whether an object is waited for: that object may decide it. -/
def isAdopting : PromiseState → Bool
  | .adopting => true
  | _ => false

end PromiseState

/-- The promises of a script, by what they are known by. -/
abbrev Promises := List (PromiseId × PromiseState)

namespace Promises

/-- Where a promise stands. -/
def state (promises : Promises) (id : PromiseId) : PromiseState :=
  ((promises.find? (·.1 == id)).map (·.2)).getD .pending

/-- Set where a promise stands. -/
def setState (promises : Promises) (id : PromiseId) (state : PromiseState) : Promises :=
  (id, state) :: promises.filter (·.1 != id)

/-- A promise stands where it was set. -/
@[simp] theorem state_setState (promises : Promises) (id : PromiseId) (state : PromiseState) :
    (promises.setState id state).state id = state := by
  simp [Promises.state, setState]

/-- The settlement of a promise, if it is settled. -/
def settlement? (promises : Promises) (id : PromiseId) : Option Settlement :=
  match promises.state id with
  | .settled settlement => some settlement
  | _ => none

/-- The reason of a promise that would have to wait for itself. -/
def cycleFault : Value := .typeFault "Chaining cycle detected for promise #<Promise>"

/-- Where a promise stands once it is decided: one that is resolved with something to wait for waits for it. -/
def resolution (id : PromiseId) : Settlement → PromiseState
  | .fulfilled (.promise other) =>
    if .told other = id then .settled (.rejected cycleFault) else .following (.told other)
  | .fulfilled value => if value.isThenable then .adopting else .settled (.fulfilled value)
  | settlement => .settled settlement

/-- The promises that follow a settled one, each with its settlement. -/
def followers (promises : Promises) : List (PromiseId × Settlement) :=
  promises.reverse.filterMap fun (id, state) =>
    match state with
    | .following other => (promises.settlement? other).map fun settlement => (id, settlement)
    | _ => none

end Promises

end Marginalia.Script
