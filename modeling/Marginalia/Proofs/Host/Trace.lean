import Marginalia.Proofs.Host.Chronicle

/-! # What a host does, move by move
Whatever happens to a host, it does a few kinds of things, one after the other (`HostMove`). Each event is
given the list of its moves, in order, and making the moves is what happens (`happen_eq_makeAll`). So what
every move keeps is kept by every history, at any moment of it (`steps_eq_makeAll`). -/

namespace Marginalia

open Script

/-- One thing that a host does. -/
inductive HostMove where
  /-- It sends a printed text on the current line. -/
  | output (text : String)
  /-- It sends an error on a line. -/
  | fail (line : ToldLine) (error : ErrorDescriptor)
  /-- It reports a value on a line, or begins to wait for it. -/
  | report (line : ToldLine) (value : Value)
  /-- It counts something to wait for, which cannot be waited for. -/
  | count
  /-- It notes where a promise stands by now. -/
  | setPromise (id : PromiseId) (state : PromiseState)
  /-- It sends all reports of promises that are due. -/
  | sendDue
  /-- It asks for an evaluation. -/
  | ask (line : ToldLine) (code : List Char)
  /-- It takes an evaluation for over. -/
  | settle (number : Nat) (keepsText : Bool)
  /-- It notes that the interpreter came back from what it was asked for. -/
  | comeBack (thrown : Option Value)
  /-- It starts no command any more. -/
  | breakDown (reason : Value)
  /-- It drops the commands that wait. -/
  | drop (reason : Value)
  /-- It forgets what nothing handled. -/
  | forget
  /-- It notes the end of the input. -/
  | finish
  /-- It asks to exit. -/
  | exit (code : Int)
  /-- It keeps commands for later. -/
  | wait (commands : List Json)
  /-- It is told what the interpreter will do for an evaluation. -/
  | schedule (actions : List Action)
  deriving Repr

namespace Host

/-- The host after a move. -/
def make (host : Host) : HostMove → Host
  | .output text => host.sendOutput text
  | .fail line error => host.send (.error line error)
  | .report line value => host.report line value
  | .count => host.count
  | .setPromise id state => host.setPromise id state
  | .sendDue => host.sendDue
  | .ask line code => host.ask line code
  | .settle number keepsText => host.settle number keepsText
  | .comeBack thrown => host.comeBack thrown
  | .breakDown reason => { host with breakdown := some reason }
  | .drop reason => host.dropWaiting reason
  | .forget => { host with unhandled := [] }
  | .finish => host.finish
  | .exit code => host.exit code
  | .wait commands => { host with waiting := commands }
  | .schedule actions => host.schedule actions

/-- The host after some moves in order. -/
def makeAll (host : Host) (moves : List HostMove) : Host := moves.foldl make host

@[simp] theorem makeAll_nil (host : Host) : host.makeAll [] = host := rfl

@[simp] theorem makeAll_cons (host : Host) (move : HostMove) (moves : List HostMove) :
    host.makeAll (move :: moves) = (host.make move).makeAll moves := rfl

@[simp] theorem makeAll_append (host : Host) (first second : List HostMove) :
    host.makeAll (first ++ second) = (host.makeAll first).makeAll second := List.foldl_append

/-! ## Actions -/

/-- The moves for an answer to an evaluation. -/
def completeMoves (host : Host) (number : Nat) (line : ToldLine) : Answer → List HostMove
  | .recoverable => [.settle number true]
  | .error thrown =>
    if thrown.isTruthy then
      match host.describer.ofThrown thrown with
      | .ok descriptor => [.fail line descriptor, .settle number false]
      | .error _ => []
    else [.settle number false]
  | .value value => [.report line value, .settle number false]
  | .unreportable counted _ => if counted then [.count] else []

theorem complete_eq_makeAll (host : Host) (number : Nat) (line : ToldLine) (answer : Answer) :
    (host.complete number line answer).1 = host.makeAll (host.completeMoves number line answer) := by
  cases answer with
  | recoverable | value => rfl
  | error thrown =>
    rw [complete, completeMoves]
    split
    · cases host.describer.ofThrown thrown <;> rfl
    · rfl
  | unreportable counted thrown => cases counted <;> rfl

/-- The moves for an answer to the evaluation of a number. -/
def takeAnswerMoves (host : Host) (number : Nat) (answer : Answer) : List HostMove :=
  match host.evaluations[number]? with
  | some evaluation => host.completeMoves number evaluation.line answer
  | none => []

theorem takeAnswer_eq_makeAll (host : Host) (number : Nat) (answer : Answer) :
    (host.takeAnswer number answer).1 = host.makeAll (host.takeAnswerMoves number answer) := by
  rw [takeAnswer, takeAnswerMoves]
  cases host.evaluations[number]? with
  | none => rfl
  | some evaluation => exact host.complete_eq_makeAll number evaluation.line answer

/-- The moves for a text that the interpreter prints. -/
def printMoves (host : Host) (text : String) : List HostMove :=
  match host.settler with
  | some number =>
    if host.asking && UncaughtReport.opens text.toList then
      [.fail host.currentLine (UncaughtReport.describe text.toList), .settle number false]
    else [.output text]
  | none => [.output text]

theorem takePrinted_eq_makeAll (host : Host) (text : String) :
    host.takePrinted text = host.makeAll (host.printMoves text) := by
  rw [takePrinted, printMoves]
  cases host.settler with
  | none => rfl
  | some number =>
    dsimp only
    split <;> rfl

/-- The moves for a decision about a promise. -/
def decideMoves (host : Host) (id : PromiseId) (mayDecide : PromiseState → Bool) (settlement : Settlement) :
    List HostMove :=
  if mayDecide (host.promises.state id) then [.setPromise id (Promises.resolution id settlement)] else []

theorem decide_eq_makeAll (host : Host) (id : PromiseId) (mayDecide : PromiseState → Bool)
    (settlement : Settlement) :
    host.decide id mayDecide settlement = host.makeAll (host.decideMoves id mayDecide settlement) := by
  unfold decide decideMoves
  split <;> rfl

/-- The moves for an action of the interpreter. -/
def actMoves (host : Host) : Action → List HostMove
  | .answer answer => host.takeAnswerMoves (host.evaluations.length - 1) answer
  | .answerTo number answer => host.takeAnswerMoves number answer
  | .throw _ => []
  | .print text => host.printMoves text
  | .write text next => .output text :: (next.map .output).toList
  | .log function line arguments =>
    if host.setup.functions.contains function then [.output (host.consoleText line arguments)] else []
  | .decide number settlement => host.decideMoves (.told number) PromiseState.isPending settlement
  | .callBack id settlement => host.decideMoves id PromiseState.isAdopting settlement
  | .surface thrown => [.output (host.surfaceText thrown)]

theorem act_eq_makeAll (host : Host) (action : Action) :
    (host.act action).1 = host.makeAll (host.actMoves action) := by
  cases action with
  | answer answer => exact host.takeAnswer_eq_makeAll _ answer
  | answerTo number answer => exact host.takeAnswer_eq_makeAll number answer
  | throw => rfl
  | print text => exact host.takePrinted_eq_makeAll text
  | write text next => cases next <;> rfl
  | log function line arguments =>
    rw [act, actMoves]
    split <;> rfl
  | decide | callBack => exact decide_eq_makeAll ..
  | surface => rfl

/-! ## Other events -/

/-- The moves for a command that starts. -/
def beginMoves (command : Json) : List HostMove :=
  match Request.read command with
  | .evaluate line code => [.ask line code]
  | .finish => [.finish]
  | .exit => [.exit 0]
  | .unknown name => [.output (unknownText name)]
  | .broken fault => [.breakDown fault]

theorem begin_eq_makeAll (host : Host) (command : Json) :
    host.begin command = host.makeAll (beginMoves command) := by
  rw [begin, handle, beginMoves]
  cases Request.read command <;> rfl

/-- The moves for the promises that follow settled ones, through at most a number of links. -/
def followMoves : Nat → Host → List HostMove
  | 0, _ => []
  | fuel + 1, host =>
    let moves := host.promises.followers.map fun (id, settlement) => .setPromise id (.settled settlement)
    moves ++ followMoves fuel (host.makeAll moves)

theorem settleFollowers_eq_makeAll (fuel : Nat) (host : Host) :
    settleFollowers fuel host = host.makeAll (followMoves fuel host) := by
  induction fuel generalizing host with
  | zero => rfl
  | succ fuel ih =>
    rw [settleFollowers, ih, followMoves, makeAll_append]
    have first : host.promises.followers.foldl
        (fun host (id, settlement) => host.settlePromise id settlement) host =
          host.makeAll (host.promises.followers.map fun (id, settlement) =>
            .setPromise id (.settled settlement)) := by
      rw [makeAll, List.foldl_map]
      rfl
    rw [first]

/-- The moves by which all promises that are settled by now are reported. -/
def deliverMoves (host : Host) : List HostMove := followMoves host.promises.length host ++ [.sendDue]

theorem deliver_eq_makeAll (host : Host) : host.deliver = host.makeAll host.deliverMoves := by
  rw [deliver, settleFollowers_eq_makeAll, deliverMoves, makeAll_append]
  rfl

/-- The moves by which what nothing handled comes to the surface. -/
def surfaceMoves (host : Host) : List HostMove :=
  host.unhandled.map (fun thrown => .output (host.surfaceText thrown)) ++ [.forget]

theorem surfaceAll_eq_makeAll (host : Host) : host.surfaceAll = host.makeAll host.surfaceMoves := by
  have printed : ∀ (thrown : List Value) (other : Host), other.surfaceText = host.surfaceText →
      thrown.foldl sendSurfaced other =
        other.makeAll (thrown.map fun thrown => .output (host.surfaceText thrown)) := by
    intro thrown
    induction thrown with
    | nil => exact fun _ _ => rfl
    | cons first thrown ih =>
      intro other same
      rw [List.foldl_cons, List.map_cons, makeAll_cons, make, ← congrFun same first]
      exact ih (other.sendSurfaced first) same
  rw [surfaceAll, surfaceMoves, makeAll_append, ← printed host.unhandled host rfl]
  rfl

/-- The moves of an event. -/
def happenMoves (host : Host) : HostEvent → List HostMove
  | .arrive command => [.wait (host.waiting ++ [command])]
  | .garble line => [.output (malformedText line)]
  | .close => [.exit 0]
  | .plan actions => [.schedule actions]
  | .start command => .wait host.waiting.tail :: beginMoves command
  | .act action => host.actMoves action
  | .comeBack thrown => [.comeBack thrown]
  | .deliver => host.deliverMoves
  | .drop reason => [.drop reason]
  | .surface => host.surfaceMoves

/-- **What happens is its moves.** -/
theorem happen_eq_makeAll (host : Host) (event : HostEvent) :
    host.happen event = host.makeAll (host.happenMoves event) := by
  cases event with
  | start command =>
    rw [happenMoves, makeAll_cons, make, happen]
    exact host.popped.begin_eq_makeAll command
  | act action => exact host.act_eq_makeAll action
  | deliver => exact host.deliver_eq_makeAll
  | surface => exact host.surfaceAll_eq_makeAll
  | arrive | garble | close | plan | comeBack | drop => rfl

/-- The moves of some events in order. -/
def movesOf : Host → List HostEvent → List HostMove
  | _, [] => []
  | host, event :: events => host.happenMoves event ++ (host.happen event).movesOf events

theorem after_eq_makeAll (host : Host) (events : List HostEvent) :
    host.after events = host.makeAll (host.movesOf events) := by
  induction events generalizing host with
  | nil => rfl
  | cons event events ih =>
    rw [after_cons, movesOf, makeAll_append, ← happen_eq_makeAll]
    exact ih (host.happen event)

/-- The moves of some steps in order. -/
def stepsMoves (host : Host) (history : List HostStep) : List HostMove :=
  host.movesOf (host.chronicle history)

/-- **A history is its moves.** The host after a history is the host after its moves. -/
theorem steps_eq_makeAll {host : Host} (quiet : host.asking = false) (history : List HostStep) :
    host.steps history = host.makeAll (host.stepsMoves history) := by
  rw [← (chronicle_spec quiet history).1, after_eq_makeAll, stepsMoves]

end Host

end Marginalia
