import Marginalia.Proofs.Host.Desk
import Mathlib.Data.List.Induction

/-! # Chronicles of a host
Whatever happens to a host comes about by events, each of which happens as a whole (`HostEvent`): a command
comes, a command starts, the interpreter does one thing, it comes back from what it was asked for. A host
allows an event where it can happen (`Host.Allows`); above all no command starts before the one in front of
it is over. Every history is such a chronicle of events (`Host.chronicle_spec`), and there are more of
them: between two commands, and while an evaluation is not over, a chronicle may tell of anything that
the interpreter does. -/

namespace Marginalia

open Script

/-! ## Histories -/

/-- What may happen to a host. -/
inductive HostStep where
  /-- A line comes from the channel. -/
  | line (text : List Char)
  /-- A command comes. -/
  | command (command : Json)
  /-- The interpreter does some things between the commands, one right after the other. -/
  | act (actions : List Action)
  /-- It is told what the interpreter will do for an evaluation to come. -/
  | schedule (actions : List Action)
  /-- The channel is closed. -/
  | close
  deriving Repr

namespace Host

/-- The host after a step. -/
def step (host : Host) : HostStep → Host
  | .line text => host.takeLine text
  | .command command => host.take command
  | .act actions => (host.observeAll actions).1
  | .schedule actions => host.schedule actions
  | .close => host.close

/-- The host after some steps in order. -/
def steps (host : Host) (history : List HostStep) : Host := history.foldl step host

end Host

/-- The command to evaluate a text on a line. -/
def evalCommand (line : Int) (code : String) : Json :=
  .object [("op", .str "eval"), ("line", .int line), ("code", .str code)]

/-- The command to note the end of the input. -/
def endCommand : Json := .object [("op", .str "end")]

/-! ## Events -/

/-- What happens at a host, as a whole and before anything else happens. -/
inductive HostEvent where
  /-- A command comes. -/
  | arrive (command : Json)
  /-- A line that is no command comes. -/
  | garble (line : List Char)
  /-- The channel is closed. -/
  | close
  /-- The host is told what the interpreter will do for an evaluation to come. -/
  | plan (actions : List Action)
  /-- A command starts. If it asks for an evaluation, the interpreter is asked. -/
  | start (command : Json)
  /-- The interpreter does something. -/
  | act (action : Action)
  /-- The interpreter comes back from what it was asked for. -/
  | comeBack (thrown : Option Value)
  /-- All reports of promises that are settled by now are sent. -/
  | deliver
  /-- A breakdown takes the commands that wait with it. -/
  | drop (reason : Value)
  /-- What nothing handled comes to the surface. -/
  | surface
  deriving Repr

namespace Host

/-- The host with the first command that waits taken from those that wait. -/
def popped (host : Host) : Host := { host with waiting := host.waiting.tail }

/-- Start a command; an evaluation is only asked for. -/
def begin (host : Host) (command : Json) : Host :=
  match Request.read command with
  | .evaluate line code => host.ask line code
  | .finish | .exit | .unknown _ | .broken _ => host.handle command

/-- The host after an event. -/
def happen (host : Host) : HostEvent → Host
  | .arrive command => { host with waiting := host.waiting ++ [command] }
  | .garble line => host.sendOutput (malformedText line)
  | .close => host.close
  | .plan actions => host.schedule actions
  | .start command => host.popped.begin command
  | .act action => (host.act action).1
  | .comeBack thrown => host.comeBack thrown
  | .deliver => host.deliver
  | .drop reason => host.dropWaiting reason
  | .surface => host.surfaceAll

/-- Whether an event can happen. A command starts when it is the first one that waits, the evaluation that was
asked for last is over and the interpreter has come back from it, and nothing broke down. -/
def Allows (host : Host) : HostEvent → Prop
  | .start command => host.waiting.head? = some command ∧ host.isBusy = false ∧ host.asking = false ∧
      host.breakdown = none
  | .comeBack _ => host.asking = true
  | .drop reason => host.breakdown = some reason
  | .arrive _ | .garble _ | .close | .plan _ | .act _ | .deliver | .surface => True

/-- The host after some events in order. -/
def after (host : Host) (events : List HostEvent) : Host := events.foldl happen host

@[simp] theorem after_nil (host : Host) : host.after [] = host := rfl

@[simp] theorem after_cons (host : Host) (event : HostEvent) (events : List HostEvent) :
    host.after (event :: events) = (host.happen event).after events := rfl

@[simp] theorem after_append (host : Host) (first second : List HostEvent) :
    host.after (first ++ second) = (host.after first).after second := List.foldl_append

/-- Whether some events can happen in order. -/
def Admits : Host → List HostEvent → Prop
  | _, [] => True
  | host, event :: events => host.Allows event ∧ (host.happen event).Admits events

@[simp] theorem admits_nil (host : Host) : host.Admits [] := trivial

@[simp] theorem admits_cons (host : Host) (event : HostEvent) (events : List HostEvent) :
    host.Admits (event :: events) ↔ host.Allows event ∧ (host.happen event).Admits events := Iff.rfl

@[simp] theorem admits_append {host : Host} {first second : List HostEvent} :
    host.Admits (first ++ second) ↔ host.Admits first ∧ (host.after first).Admits second := by
  induction first generalizing host with
  | nil => simp
  | cons event first ih => simp [ih, and_assoc]

/-- **Induction over a chronicle.** What holds of a host that is up and is kept by each event that can happen
holds after every chronicle. -/
theorem Admits.induction {host : Host} {motive : List HostEvent → Prop} {events : List HostEvent}
    (admitted : host.Admits events) (nil : motive [])
    (concat : ∀ before event, host.Admits before → (host.after before).Allows event → motive before →
      motive (before ++ [event])) : motive events := by
  induction events using List.reverseRecOn with
  | nil => exact nil
  | append_singleton before event ih =>
    obtain ⟨earlier, allowed, -⟩ := admits_append.mp admitted
    exact concat before event earlier allowed (ih earlier)

/-! ## What some events leave as it is -/

variable {host : Host}

/-- Ending an evaluation leaves everything else as it is. -/
theorem judge_keeps {α : Type} (part : Host → α)
    (keeps : ∀ (host : Host) evaluations settler buffer,
      part { host with evaluations := evaluations, settler := settler, buffer := buffer } = part host)
    (host : Host) (verdict : Option (Nat × Bool)) : part (host.judge verdict) = part host := by
  unfold judge
  split
  · unfold settle
    split
    · split
      · rfl
      · exact keeps host _ _ _
    · rfl
  · rfl

@[simp] theorem asking_judge (host : Host) (verdict : Option (Nat × Bool)) :
    (host.judge verdict).asking = host.asking :=
  judge_keeps asking (fun _ _ _ _ => rfl) host verdict

@[simp] theorem waiting_judge (host : Host) (verdict : Option (Nat × Bool)) :
    (host.judge verdict).waiting = host.waiting :=
  judge_keeps waiting (fun _ _ _ _ => rfl) host verdict

@[simp] theorem breakdown_judge (host : Host) (verdict : Option (Nat × Bool)) :
    (host.judge verdict).breakdown = host.breakdown :=
  judge_keeps breakdown (fun _ _ _ _ => rfl) host verdict

theorem asking_act (host : Host) (action : Action) : (host.act action).1.asking = host.asking :=
  (congrArg Desk.asking (host.desk_act action)).trans (host.asking_judge _)

theorem waiting_act (host : Host) (action : Action) : (host.act action).1.waiting = host.waiting :=
  (congrArg Desk.waiting (host.desk_act action)).trans (host.waiting_judge _)

theorem breakdown_act (host : Host) (action : Action) : (host.act action).1.breakdown = host.breakdown :=
  (congrArg Desk.breakdown (host.desk_act action)).trans (host.breakdown_judge _)

@[simp] theorem asking_deliver (host : Host) : host.deliver.asking = host.asking :=
  congrArg Desk.asking host.desk_deliver

@[simp] theorem waiting_deliver (host : Host) : host.deliver.waiting = host.waiting :=
  congrArg Desk.waiting host.desk_deliver

/-! ## The chronicle of a history -/

/-- The events of some actions, up to the first one that throws. -/
def actEvents : Host → List Action → List HostEvent
  | _, [] => []
  | host, action :: actions =>
    .act action ::
      match host.act action with
      | (after, none) => after.actEvents actions
      | (_, some _) => []

theorem after_actEvents (host : Host) (actions : List Action) :
    host.after (host.actEvents actions) = (host.actAll actions).1 := by
  induction actions generalizing host with
  | nil => rfl
  | cons action actions ih =>
    rw [actEvents, actAll, after_cons, happen]
    rcases host.act action with ⟨after, _ | thrown⟩
    · exact ih after
    · rfl

theorem admits_actEvents (host : Host) (actions : List Action) : host.Admits (host.actEvents actions) := by
  induction actions generalizing host with
  | nil => exact trivial
  | cons action actions ih =>
    rw [actEvents, admits_cons, happen]
    refine ⟨trivial, ?_⟩
    rcases host.act action with ⟨after, _ | thrown⟩
    · exact ih after
    · exact trivial

/-- What every action leaves as it is, some actions leave as it is. -/
theorem actAll_keeps {α : Type} (part : Host → α)
    (keeps : ∀ host action, part (host.act action).1 = part host) (actions : List Action) (host : Host) :
    part (host.actAll actions).1 = part host := by
  induction actions generalizing host with
  | nil => rfl
  | cons action actions ih =>
    have first := keeps host action
    rw [actAll]
    rcases acted : host.act action with ⟨after, _ | thrown⟩
    · rw [acted] at first
      exact (ih after).trans first
    · rw [acted] at first
      exact first

/-- The events of a command that starts: the evaluation that it asks for goes on until the interpreter comes
back. -/
def startEvents (host : Host) (command : Json) : List HostEvent :=
  .start command ::
    match Request.read command with
    | .evaluate line code =>
      let asking := host.popped.ask line code
      let actions := host.scheduled.headD unscheduled
      asking.actEvents actions ++ [.comeBack (asking.actAll actions).2]
    | .finish | .exit | .unknown _ | .broken _ => []

theorem after_startEvents (host : Host) (command : Json) :
    host.after (host.startEvents command) = host.popped.handle command := by
  rw [startEvents, after_cons, happen, begin, handle]
  cases Request.read command with
  | evaluate line code =>
    dsimp only
    rw [after_append, after_actEvents]
    rfl
  | finish | exit | unknown | broken => rfl

theorem admits_startEvents {command : Json} (allowed : host.Allows (.start command)) :
    host.Admits (host.startEvents command) := by
  rw [startEvents, admits_cons, happen, begin]
  refine ⟨allowed, ?_⟩
  cases Request.read command with
  | evaluate line code =>
    dsimp only
    rw [admits_append, after_actEvents]
    exact ⟨admits_actEvents _ _, actAll_keeps asking asking_act _ _, trivial⟩
  | finish | exit | unknown | broken => exact trivial

@[simp] theorem waiting_finish (host : Host) : host.finish.waiting = host.waiting :=
  congrArg Desk.waiting host.desk_finish

@[simp] theorem asking_finish (host : Host) : host.finish.asking = host.asking :=
  congrArg Desk.asking host.desk_finish

/-- After a command has started, the commands behind it wait, and the interpreter has come back. -/
theorem handle_spec (host : Host) (quiet : host.asking = false) (command : Json) :
    (host.handle command).waiting = host.waiting ∧ (host.handle command).asking = false := by
  rw [handle]
  cases Request.read command with
  | evaluate line code => exact ⟨actAll_keeps waiting waiting_act _ _, rfl⟩
  | finish => exact ⟨host.waiting_finish, host.asking_finish.trans quiet⟩
  | exit | unknown | broken => exact ⟨rfl, quiet⟩

/-- The events of some commands that wait, as far as evaluations are over. -/
def advanceEvents (host : Host) : List Json → List HostEvent
  | [] => []
  | command :: commands =>
    match host.breakdown with
    | some reason => [.drop reason]
    | none =>
      if host.isBusy then []
      else
        let after := (host.popped.handle command).deliver
        host.startEvents command ++ .deliver ::
          match after.breakdown with
          | some reason => [.drop reason]
          | none => after.advanceEvents commands

/-- Carrying out the commands that wait is what its events tell, and after it the interpreter has come back. -/
theorem advance_spec (commands : List Json) (waiting : host.waiting = commands)
    (quiet : host.asking = false) :
    host.after (host.advanceEvents commands) = host.advance commands ∧
      host.Admits (host.advanceEvents commands) ∧ (host.advance commands).asking = false := by
  induction commands generalizing host with
  | nil =>
    refine ⟨?_, trivial, quiet⟩
    rw [advanceEvents, advance, after_nil, ← waiting]
  | cons command commands ih =>
    -- The recursion hands on what waits, the events look for it in the host: `waiting` says they agree.
    have rest : host.popped = { host with waiting := commands } := by rw [popped, waiting, List.tail_cons]
    have stays : { host with waiting := command :: commands } = host := by rw [← waiting]
    rw [advanceEvents, advance, ← rest, stays]
    cases running : host.breakdown with
    | some reason => exact ⟨rfl, ⟨running, trivial⟩, quiet⟩
    | none =>
      cases busy : host.isBusy with
      | true => exact ⟨rfl, trivial, quiet⟩
      | false =>
        rw [if_neg Bool.false_ne_true, if_neg Bool.false_ne_true]
        have leads : host.waiting.head? = some command := by rw [waiting, List.head?_cons]
        have first : host.Allows (.start command) := ⟨leads, busy, quiet, running⟩
        obtain ⟨others, back⟩ := host.popped.handle_spec quiet command
        have same : (host.popped.handle command).deliver.waiting = commands := by
          rw [waiting_deliver, others, rest]
        have still : (host.popped.handle command).deliver.asking = false := by rw [asking_deliver, back]
        dsimp only
        rw [after_append, after_startEvents, after_cons, admits_append, after_startEvents, admits_cons]
        dsimp only [happen]
        cases broken : (host.popped.handle command).deliver.breakdown with
        | some reason => exact ⟨rfl, ⟨admits_startEvents first, trivial, broken, trivial⟩, still⟩
        | none =>
          obtain ⟨goesOn, admitted, quietly⟩ := ih same still
          exact ⟨goesOn, ⟨admits_startEvents first, trivial, admitted⟩, quietly⟩

/-- Which commands waited is of no account when some commands are carried out. -/
theorem advance_of_waiting (host : Host) (waiting commands : List Json) :
    { host with waiting := waiting }.advance commands = host.advance commands := by
  cases commands with
  | nil => rfl
  | cons command commands => rfl

/-- The events of one more command. -/
def takeEvents (host : Host) (command : Json) : List HostEvent :=
  let after := host.happen (.arrive command)
  .arrive command :: (after.advanceEvents after.waiting ++ [.surface])

/-- The events of a step. -/
def stepEvents (host : Host) : HostStep → List HostEvent
  | .line text =>
    match Json.read? Json.strictDialect text with
    | some command => host.takeEvents command.rounded
    | none => [.garble text]
  | .command command => host.takeEvents command.rounded
  | .act actions =>
    let delivered := (host.actAll actions).1.deliver
    host.actEvents actions ++ .deliver :: (delivered.advanceEvents delivered.waiting ++ [.surface])
  | .schedule actions => [.plan actions]
  | .close => [.close]

/-- The events of some steps in order. -/
def chronicle : Host → List HostStep → List HostEvent
  | _, [] => []
  | host, step :: history => host.stepEvents step ++ (host.step step).chronicle history

/-- The commands that wait are carried out, and what nothing handled comes to the surface. -/
theorem settle_down_spec (host : Host) (quiet : host.asking = false) :
    host.after (host.advanceEvents host.waiting ++ [.surface]) = (host.advance host.waiting).surfaceAll ∧
      host.Admits (host.advanceEvents host.waiting ++ [.surface]) ∧
      (host.advance host.waiting).surfaceAll.asking = false := by
  obtain ⟨goesOn, admitted, quietly⟩ := advance_spec host.waiting rfl quiet
  rw [after_append, goesOn, admits_append]
  exact ⟨rfl, ⟨admitted, trivial, trivial⟩, (congrArg Desk.asking (desk_surfaceAll _)).trans quietly⟩

/-- One more command is what its events tell. -/
theorem take_spec (quiet : host.asking = false) (command : Json) :
    host.after (host.takeEvents command.rounded) = host.take command ∧
      host.Admits (host.takeEvents command.rounded) ∧ (host.take command).asking = false := by
  obtain ⟨goesOn, admitted, quietly⟩ := (host.happen (.arrive command.rounded)).settle_down_spec quiet
  have same : (host.happen (.arrive command.rounded)).advance (host.waiting ++ [command.rounded]) =
      host.advance (host.waiting ++ [command.rounded]) := host.advance_of_waiting _ _
  rw [takeEvents, after_cons, admits_cons, goesOn, take, ← same]
  exact ⟨rfl, ⟨trivial, admitted⟩, quietly⟩

/-- A step is what its events tell. -/
theorem step_spec (quiet : host.asking = false) (step : HostStep) :
    host.after (host.stepEvents step) = host.step step ∧ host.Admits (host.stepEvents step) ∧
      (host.step step).asking = false := by
  cases step with
  | line text =>
    rw [stepEvents, Host.step, takeLine]
    cases Json.read? Json.strictDialect text with
    | none => exact ⟨rfl, ⟨trivial, trivial⟩, quiet⟩
    | some command => exact take_spec quiet command
  | command command => exact take_spec quiet command
  | act actions =>
    have still : (host.actAll actions).1.deliver.asking = false := by
      rw [asking_deliver]
      exact (actAll_keeps asking asking_act actions host).trans quiet
    obtain ⟨goesOn, admitted, quietly⟩ := settle_down_spec _ still
    rw [stepEvents, after_append, admits_append, after_actEvents, after_cons, admits_cons, happen, goesOn]
    exact ⟨rfl, ⟨admits_actEvents _ _, trivial, admitted⟩, quietly⟩
  | schedule actions => exact ⟨rfl, ⟨trivial, trivial⟩, quiet⟩
  | close => exact ⟨rfl, ⟨trivial, trivial⟩, quiet⟩

/-- **A history is a chronicle.** The host after a history is the host after the events of its chronicle, each
of which could happen when it did. -/
theorem chronicle_spec (quiet : host.asking = false) (history : List HostStep) :
    host.after (host.chronicle history) = host.steps history ∧ host.Admits (host.chronicle history) := by
  induction history generalizing host with
  | nil => exact ⟨rfl, trivial⟩
  | cons step history ih =>
    obtain ⟨same, admitted, quietly⟩ := step_spec quiet step
    obtain ⟨goesOn, others⟩ := ih quietly
    rw [chronicle, after_append, admits_append, same, goesOn]
    exact ⟨rfl, admitted, others⟩

end Host

end Marginalia
