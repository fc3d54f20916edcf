import Marginalia.Script.Promises

/-! # Actions of the interpreter
What an interpreter may do while it evaluates a text or at any later time, as far as the host notices:
it answers, prints, runs into an error, or decides a promise. -/

namespace Marginalia

open Script

/-- How an interpreter answers an evaluation. -/
inductive Answer where
  /-- With a value. -/
  | value (value : Value)
  /-- With an error. -/
  | error (thrown : Value)
  /-- The text is the beginning of a statement that needs more lines. -/
  | recoverable
  /-- With a value or an error that cannot be reported: what is thrown by a look at it, and whether it was counted
  as something to wait for by then. -/
  | unreportable (counted : Bool) (thrown : Value)
  deriving Repr

/-- What an interpreter does. -/
inductive Action where
  /-- It answers the evaluation that was asked for last. -/
  | answer (answer : Answer)
  /-- It answers the evaluation of a number, counted from the first one that was asked for. -/
  | answerTo (number : Nat) (answer : Answer)
  /-- It fails instead of answering. -/
  | throw (thrown : Value)
  /-- It prints a text of its own. -/
  | print (text : String)
  /-- The script writes a text and waits for that in order to write another one, if it does so. -/
  | write (text : String) (next : Option String)
  /-- The script calls a function of the tagging console. -/
  | log (function : String) (line : Value) (arguments : List Value)
  /-- The script resolves or rejects a promise of its own. -/
  | decide (number : Nat) (settlement : Settlement)
  /-- An object with a method of its own to wait by calls the promise back that adopts it. -/
  | callBack (id : PromiseId) (settlement : Settlement)
  /-- An error that nothing handles comes to the surface. -/
  | surface (thrown : Value)
  deriving Repr

end Marginalia
