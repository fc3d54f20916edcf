import Marginalia.Host

/-! # The desk of a host
A part of what a host keeps decides which command it starts next and which text it asks for: the evaluations,
the buffer, what waits and whether anything still starts (`Host.desk`). Messages, reports and promises leave
the desk as it is. An action of the interpreter ends one evaluation or none (`Host.verdict?`), and that is all
it does to the desk (`Host.desk_act`). -/

namespace Marginalia

open Script

/-- What decides which command a host starts next and which text it asks for. -/
structure Desk where
  /-- The line of the evaluation that was asked for last. -/
  currentLine : ToldLine
  /-- The beginning of a statement that needs more lines. -/
  buffer : List Char
  /-- The line on which that statement begins. -/
  openLine : ToldLine
  /-- The evaluations that were asked for. -/
  evaluations : List Evaluation
  /-- The evaluation that the report of an uncaught error ends. -/
  settler : Option Nat
  /-- Whether an evaluation is being asked for. -/
  asking : Bool
  /-- The commands that have not started. -/
  waiting : List Json
  /-- Why no command starts any more, if that is so. -/
  breakdown : Option Value

namespace Host

/-- The desk of a host. -/
def desk (host : Host) : Desk :=
  ⟨host.currentLine, host.buffer, host.openLine, host.evaluations, host.settler, host.asking, host.waiting,
    host.breakdown⟩

variable {host other : Host}

/-! ## What leaves the desk as it is -/

@[simp] theorem desk_send (host : Host) (message : Message) : (host.send message).desk = host.desk := rfl

@[simp] theorem desk_sendOutput (host : Host) (text : String) : (host.sendOutput text).desk = host.desk := rfl

@[simp] theorem desk_endIfDrained (host : Host) : host.endIfDrained.desk = host.desk := by
  unfold endIfDrained
  split <;> rfl

@[simp] theorem desk_await (host : Host) (line : ToldLine) (id : PromiseId) :
    (host.await line id).desk = host.desk := by
  unfold await
  split <;> rfl

@[simp] theorem desk_report (host : Host) (line : ToldLine) (value : Value) :
    (host.report line value).desk = host.desk := by
  unfold report
  split
  · rfl
  · exact desk_await ..
  · split
    · exact desk_await ..
    · rfl

@[simp] theorem desk_settlePromise (host : Host) (id : PromiseId) (settlement : Settlement) :
    (host.settlePromise id settlement).desk = host.desk := rfl

@[simp] theorem desk_setPromise (host : Host) (id : PromiseId) (state : PromiseState) :
    (host.setPromise id state).desk = host.desk := by
  cases state <;> rfl

@[simp] theorem desk_decide (host : Host) (id : PromiseId) (mayDecide : PromiseState → Bool)
    (settlement : Settlement) : (host.decide id mayDecide settlement).desk = host.desk := by
  unfold decide
  split
  · exact desk_setPromise ..
  · rfl

/-- The end of the input empties the buffer, and does nothing else to the desk. -/
theorem desk_finish (host : Host) : host.finish.desk = { host.desk with buffer := [] } := by
  rw [finish, desk_endIfDrained]
  dsimp only [desk]
  split
  · rename_i blank
    rw [List.isEmpty_iff.mp blank]
  · rfl

/-- What is done for each of some things leaves a part of the host as it is if each time it does. -/
theorem foldl_keeps {α β : Type} (part : Host → β) {move : Host → α → Host}
    (keeps : ∀ host thing, part (move host thing) = part host) (things : List α) (host : Host) :
    part (things.foldl move host) = part host := by
  induction things generalizing host with
  | nil => rfl
  | cons thing things ih => rw [List.foldl_cons, ih, keeps]

/-- Settling promises that follow others leaves as it is what settling a promise does. -/
theorem settleFollowers_keeps {β : Type} (part : Host → β)
    (keeps : ∀ host id settlement, part (settlePromise host id settlement) = part host) (fuel : Nat)
    (host : Host) : part (settleFollowers fuel host) = part host := by
  induction fuel generalizing host with
  | zero => rfl
  | succ fuel ih =>
    rw [settleFollowers, ih]
    exact foldl_keeps part (fun host (follower : PromiseId × Settlement) => keeps host follower.1 follower.2) _ _

@[simp] theorem desk_settleFollowers (fuel : Nat) (host : Host) :
    (settleFollowers fuel host).desk = host.desk :=
  settleFollowers_keeps desk desk_settlePromise fuel host

@[simp] theorem desk_sendSettlement (host : Host) (line : ToldLine) (settlement : Settlement) :
    (host.sendSettlement line settlement).desk = host.desk := by
  unfold sendSettlement
  split
  · split <;> rfl
  · split <;> rfl
  · rfl

@[simp] theorem desk_sendDue (host : Host) : host.sendDue.desk = host.desk := by
  unfold sendDue
  rw [desk_endIfDrained]
  exact foldl_keeps desk (fun host (answer : ToldLine × Settlement) =>
    host.desk_sendSettlement answer.1 answer.2) _ _

@[simp] theorem desk_deliver (host : Host) : host.deliver.desk = host.desk := by
  rw [deliver, desk_sendDue, desk_settleFollowers]

@[simp] theorem desk_surfaceAll (host : Host) : host.surfaceAll.desk = host.desk :=
  foldl_keeps desk (fun host thrown => host.desk_sendOutput (host.surfaceText thrown)) _ _

/-! ## Ending an evaluation -/

/-- What ending an evaluation does to the desk depends on the desk alone. -/
theorem desk_settle_congr (same : host.desk = other.desk) (number : Nat) (keepsText : Bool) :
    (host.settle number keepsText).desk = (other.settle number keepsText).desk := by
  obtain ⟨currentLine, -, openLine, evaluations, -, asking, waiting, breakdown⟩ := Desk.mk.inj same
  unfold settle
  rw [evaluations]
  cases other.evaluations[number]? with
  | none => exact same
  | some evaluation =>
    dsimp only
    split
    · exact same
    · simp only [desk, currentLine, openLine, asking, waiting, breakdown]

/-- An evaluation that is over stays as it is. -/
theorem settle_of_settled {number : Nat} {evaluation : Evaluation}
    (asked : host.evaluations[number]? = some evaluation) (settled : evaluation.settled = true)
    (keepsText : Bool) : host.settle number keepsText = host := by
  simp only [settle, asked, settled, if_true]

/-- An evaluation that was not asked for is not ended. -/
theorem settle_of_none {number : Nat} (missing : host.evaluations[number]? = none) (keepsText : Bool) :
    host.settle number keepsText = host := by
  simp only [settle, missing]

end Host

/-! ## What an action does to the desk -/

/-- Whether what was thrown can be described. -/
def isDescribable (thrown : Value) : Bool := ((Describer.mk none []).ofThrown thrown).isOk

/-- Whether something can be described does not depend on how values are described. -/
theorem isOk_ofThrown (describer : Describer) (thrown : Value) :
    (describer.ofThrown thrown).isOk = isDescribable thrown := by
  unfold isDescribable Describer.ofThrown
  cases thrown.member? "message" with
  | some message => rfl
  | none => rfl

/-- How an answer ends an evaluation: whether the text stays, because more lines are needed. What cannot be
reported, as an error that cannot be described, ends none. -/
def Answer.verdict? : Answer → Option Bool
  | .recoverable => some true
  | .error thrown => if thrown.isTruthy && !isDescribable thrown then none else some false
  | .value _ => some false
  | .unreportable .. => none

namespace Host

variable {host : Host}

/-- The evaluation that an action of the interpreter ends unless it is over, and whether its text stays. -/
def verdict? (host : Host) : Action → Option (Nat × Bool)
  | .answer answer => answer.verdict?.map fun keepsText => (host.evaluations.length - 1, keepsText)
  | .answerTo number answer => answer.verdict?.map fun keepsText => (number, keepsText)
  | .print text =>
    if host.asking && UncaughtReport.opens text.toList then host.settler.map fun number => (number, false)
    else none
  | .throw _ | .write .. | .log .. | .decide .. | .callBack .. | .surface _ => none

/-- End the evaluation that a verdict names, if there is one. -/
def judge (host : Host) : Option (Nat × Bool) → Host
  | some (number, keepsText) => host.settle number keepsText
  | none => host

/-- An answer ends the evaluation of its number, and does nothing else to the desk. -/
theorem desk_takeAnswer (host : Host) (number : Nat) (answer : Answer) :
    (host.takeAnswer number answer).1.desk =
      (host.judge (answer.verdict?.map fun keepsText => (number, keepsText))).desk := by
  unfold takeAnswer
  cases asked : host.evaluations[number]? with
  | none =>
    cases answer.verdict? with
    | none => rfl
    | some keepsText => simp only [Option.map_some, judge, settle_of_none asked]
  | some evaluation =>
    cases answer with
    | recoverable => rfl
    | value value => exact desk_settle_congr (host.desk_report evaluation.line value) number false
    | unreportable counted thrown => cases counted <;> rfl
    | error thrown =>
      have described := isOk_ofThrown host.describer thrown
      dsimp only [complete, Answer.verdict?]
      cases truthy : thrown.isTruthy with
      | false => rfl
      | true =>
        cases result : host.describer.ofThrown thrown with
        | ok descriptor =>
          have describable : isDescribable thrown = true := by rw [← described, result]; rfl
          simp only [if_true, describable]
          exact desk_settle_congr (host.desk_send _) number false
        | error fault =>
          have undescribable : isDescribable thrown = false := by rw [← described, result]; rfl
          simp [undescribable, judge]

/-- **An action ends one evaluation or none**, and does nothing else to the desk. -/
theorem desk_act (host : Host) (action : Action) :
    (host.act action).1.desk = (host.judge (host.verdict? action)).desk := by
  cases action with
  | answer answer => exact host.desk_takeAnswer _ answer
  | answerTo number answer => exact host.desk_takeAnswer number answer
  | throw | surface => rfl
  | print text =>
    rw [act, verdict?, takePrinted]
    cases host.settler with
    | none => cases host.asking && UncaughtReport.opens text.toList <;> rfl
    | some number =>
      cases host.asking && UncaughtReport.opens text.toList with
      | false => rfl
      | true => exact desk_settle_congr (host.desk_send _) number false
  | write text next => cases next <;> rfl
  | log function line arguments =>
    rw [act]
    split <;> rfl
  | decide | callBack => exact desk_decide ..

end Host

end Marginalia
