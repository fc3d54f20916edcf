import Marginalia.Proofs.Host.Draining

/-! # The past of a host
What a host does next depends neither on the messages that it sent nor, until it starts the next command, on the
commands that wait. So a host with some messages more in front of its own, and with other commands waiting
(`Host.behind`), does the same as it would without them, operation by operation, and sends the same behind
them. Two hosts that agree but for both (`Host.bare`) therefore go on to agree. -/

namespace Marginalia

open Script

namespace Host

/-- A host with some messages before its own, where other commands wait. -/
def behind (host : Host) (waiting : List Json) (sent : List Message) : Host :=
  { host with waiting := waiting, sent := sent ++ host.sent }

/-- A host where other commands wait. -/
def keeping (host : Host) (waiting : List Json) : Host := { host with waiting := waiting }

/-- A host but for the commands that wait and the messages that it sent. -/
def bare (host : Host) : Host := { host with waiting := [], sent := [] }

/-- A host stands behind what it sent and what waits. -/
theorem bare_behind (host : Host) : host.bare.behind host.waiting host.sent = host := by
  simp [bare, behind]

section Behind

variable (host : Host) (waiting : List Json) (sent : List Message)

/-! ## Messages and promises -/

/-- What is done for each of some things is the same behind some messages if it is each time. -/
theorem foldl_behind {α : Type} (move : Host → α → Host)
    (same : ∀ host thing, move (behind host waiting sent) thing = (move host thing).behind waiting sent)
    (things : List α) :
    things.foldl move (host.behind waiting sent) = (things.foldl move host).behind waiting sent := by
  induction things generalizing host with
  | nil => rfl
  | cons thing things ih => rw [List.foldl_cons, same, ih, List.foldl_cons]

theorem send_behind (message : Message) :
    (host.behind waiting sent).send message = (host.send message).behind waiting sent := by
  simp [behind, send]

theorem sendOutput_behind (text : String) :
    (host.behind waiting sent).sendOutput text = (host.sendOutput text).behind waiting sent :=
  send_behind ..

theorem endIfDrained_behind :
    (host.behind waiting sent).endIfDrained = host.endIfDrained.behind waiting sent := by
  unfold endIfDrained
  rw [apply_ite (behind · waiting sent), ← send_behind]
  rfl

theorem decide_behind (id : PromiseId) (mayDecide : PromiseState → Bool) (settlement : Settlement) :
    (host.behind waiting sent).decide id mayDecide settlement =
      (host.decide id mayDecide settlement).behind waiting sent := by
  have promises : (host.behind waiting sent).promises = host.promises := rfl
  unfold decide
  rw [promises]
  split
  · cases Promises.resolution id settlement <;> rfl
  · rfl

theorem settleFollowers_behind (fuel : Nat) :
    settleFollowers fuel (host.behind waiting sent) = (settleFollowers fuel host).behind waiting sent := by
  induction fuel generalizing host with
  | zero => rfl
  | succ fuel ih =>
    have first := foldl_behind host waiting sent
      (fun host (follower : PromiseId × Settlement) => host.settlePromise follower.1 follower.2)
      (fun _ _ => rfl) host.promises.followers
    rw [settleFollowers, settleFollowers, ← ih, ← first]
    rfl

theorem answered_behind : (host.behind waiting sent).answered = host.answered.behind waiting sent := by
  simp only [answered, sendAll, behind, ← List.append_assoc]
  rfl

/-- Delivering what is settled by now. -/
theorem deliver_behind : (host.behind waiting sent).deliver = host.deliver.behind waiting sent := by
  have fuel : (host.behind waiting sent).promises.length = host.promises.length := rfl
  rw [deliver, deliver, fuel, settleFollowers_behind, sendDue_eq, sendDue_eq, answered_behind,
    endIfDrained_behind]

theorem surfaceAll_behind : (host.behind waiting sent).surfaceAll = host.surfaceAll.behind waiting sent := by
  have all := foldl_behind host waiting sent sendSurfaced (fun _ _ => send_behind ..) host.unhandled
  have unhandled : (host.behind waiting sent).unhandled = host.unhandled := rfl
  rw [surfaceAll, unhandled, all]
  rfl

/-! ## What the interpreter does -/

theorem settle_behind (number : Nat) (keepsText : Bool) :
    (host.behind waiting sent).settle number keepsText =
      (host.settle number keepsText).behind waiting sent := by
  have evaluations : (host.behind waiting sent).evaluations = host.evaluations := rfl
  unfold settle
  rw [evaluations]
  cases host.evaluations[number]? with
  | none => rfl
  | some evaluation =>
    dsimp only
    split <;> rfl

theorem await_behind (line : ToldLine) (id : PromiseId) :
    (host.behind waiting sent).await line id = (host.await line id).behind waiting sent := by
  have promises : (host.behind waiting sent).promises = host.promises := rfl
  unfold await
  rw [promises]
  split <;> rfl

theorem report_behind (line : ToldLine) (value : Value) :
    (host.behind waiting sent).report line value = (host.report line value).behind waiting sent := by
  unfold report
  split
  · rfl
  · exact await_behind ..
  · split
    · exact host.adopt.await_behind waiting sent line _
    · exact send_behind ..

/-- An answer to an evaluation. -/
theorem takeAnswer_behind (number : Nat) (answer : Answer) :
    (host.behind waiting sent).takeAnswer number answer =
      ((host.takeAnswer number answer).1.behind waiting sent, (host.takeAnswer number answer).2) := by
  have evaluations : (host.behind waiting sent).evaluations = host.evaluations := rfl
  have describer : (host.behind waiting sent).describer = host.describer := rfl
  unfold takeAnswer
  rw [evaluations]
  cases host.evaluations[number]? with
  | none => rfl
  | some evaluation =>
    cases answer with
    | recoverable => simp only [complete, settle_behind]
    | value value => simp only [complete, report_behind, settle_behind]
    | error thrown =>
      simp only [complete, describer]
      split
      · split
        · simp only [send_behind, settle_behind]
        · rfl
      · simp only [settle_behind]
    | unreportable counted thrown => cases counted <;> rfl

theorem takePrinted_behind (text : String) :
    (host.behind waiting sent).takePrinted text = (host.takePrinted text).behind waiting sent := by
  have settler : (host.behind waiting sent).settler = host.settler := rfl
  have asking : (host.behind waiting sent).asking = host.asking := rfl
  have line : (host.behind waiting sent).currentLine = host.currentLine := rfl
  unfold takePrinted
  rw [settler, asking, line]
  split
  · split
    · rw [send_behind, settle_behind]
    · exact sendOutput_behind ..
  · exact sendOutput_behind ..

/-- One action of the interpreter. -/
theorem act_behind (action : Action) :
    (host.behind waiting sent).act action =
      ((host.act action).1.behind waiting sent, (host.act action).2) := by
  cases action with
  | answer answer => exact takeAnswer_behind ..
  | answerTo number answer => exact takeAnswer_behind ..
  | throw => rfl
  | print text => exact congrArg (·, none) (takePrinted_behind ..)
  | write text next =>
    cases next with
    | none => exact congrArg (·, none) (sendOutput_behind ..)
    | some next =>
      have both : ((host.behind waiting sent).sendOutput text).sendOutput next =
          ((host.sendOutput text).sendOutput next).behind waiting sent := by
        rw [sendOutput_behind, sendOutput_behind]
      exact congrArg (·, none) both
  | log function line arguments =>
    have setup : (host.behind waiting sent).setup = host.setup := rfl
    rw [act, act, setup]
    split
    · exact congrArg (·, none) (sendOutput_behind ..)
    · rfl
  | decide | callBack => exact congrArg (·, none) (decide_behind ..)
  | surface thrown => exact congrArg (·, none) (send_behind ..)

/-- Some actions, up to the first one that throws. -/
theorem actAll_behind (actions : List Action) :
    (host.behind waiting sent).actAll actions =
      ((host.actAll actions).1.behind waiting sent, (host.actAll actions).2) := by
  induction actions generalizing host with
  | nil => rfl
  | cons action actions ih =>
    rw [actAll, actAll, act_behind]
    rcases host.act action with ⟨after, _ | thrown⟩
    · exact ih after
    · rfl

/-! ## Commands -/

theorem evaluate_behind (line : ToldLine) (code : List Char) :
    (host.behind waiting sent).evaluate line code = (host.evaluate line code).behind waiting sent := by
  have asked : (host.behind waiting sent).ask line code = (host.ask line code).behind waiting sent := rfl
  have scheduled : (host.behind waiting sent).scheduled = host.scheduled := rfl
  rw [evaluate, evaluate, asked, scheduled, actAll_behind]
  rfl

theorem finish_behind : (host.behind waiting sent).finish = host.finish.behind waiting sent := by
  have buffer : (host.behind waiting sent).buffer = host.buffer := rfl
  have line : (host.behind waiting sent).openLine = host.openLine := rfl
  rw [finish, finish, ← endIfDrained_behind, buffer, line]
  congr 1
  split
  · rfl
  · rw [send_behind]
    rfl

/-- A command that is carried out. -/
theorem handle_behind (command : Json) :
    (host.behind waiting sent).handle command = (host.handle command).behind waiting sent := by
  rw [handle, handle]
  cases Request.read command with
  | evaluate line code => exact evaluate_behind ..
  | finish => exact finish_behind ..
  | exit | broken => rfl
  | unknown name => exact sendOutput_behind ..

end Behind

@[simp] theorem advance_nil (host : Host) : host.advance [] = host.keeping [] := rfl

/-- The first command that waits is carried out with the others behind it waiting. -/
theorem advance_cons (host : Host) (command : Json) (commands : List Json) :
    host.advance (command :: commands) =
      match host.breakdown with
      | some reason => host.dropWaiting reason
      | none =>
        if host.isBusy then host.keeping (command :: commands)
        else
          let after := ((host.keeping commands).handle command).deliver
          match after.breakdown with
          | some reason => after.dropWaiting reason
          | none => after.advance commands := rfl

/-! ## Hosts that agree but for what they sent -/

/-- Two hosts that agree but for what waits and for what they sent go on to agree, and send the same. -/
theorem exists_news (move : Host → Host)
    (same : ∀ host waiting sent, move (behind host waiting sent) = (move host).behind waiting sent)
    {host other : Host} (alike : host.bare = other.bare) :
    (move host).bare = (move other).bare ∧
      ∃ news, (move host).sent = host.sent ++ news ∧ (move other).sent = other.sent ++ news := by
  have moves (host : Host) : move host = (move host.bare).behind host.waiting host.sent := by
    rw [← same, bare_behind]
  rw [moves host, moves other, alike]
  exact ⟨rfl, (move other.bare).sent, rfl, rfl⟩

end Host

end Marginalia
