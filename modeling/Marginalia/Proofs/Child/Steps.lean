import Marginalia.Proofs.Wire.Decoding

/-! # Steps of a child
Whatever befalls a spawned child is a step (`ChildStep`): lines come from it, commands are sent, its input breaks,
it ends, the reader of its output comes to the end, or it is asked to end. A child ends and the reader notices it
later, so other steps may come between the two; where an operation does both at once, it is one after the other
(`Child.ended_eq`). What one step does is said twice: for the life of the child (`Child.Lives`) and for what is
read of it (`Child.Hears`). -/

namespace Marginalia

open Text

/-- What may befall a child. -/
inductive ChildStep where
  /-- A line comes from its output, for a receiver that may fail on messages. -/
  | line (fails : Message → Bool) (text : List Char)
  /-- A line about its trouble comes. -/
  | trouble (text : List Char)
  /-- A command is sent to it. -/
  | send (command : Command)
  /-- Nobody reads its input any more. -/
  | breakInput
  /-- It ends. -/
  | die (code : Int)
  /-- The reader comes to the end of its output, if the child has ended. -/
  | notice
  /-- It is ended: asked, killed if it stays, and its input closed. -/
  | terminate

/-- A line that is read to its end: no type on it is a list or an object. -/
def Readable (line : List Char) : Prop :=
  ∀ fault, Message.decode (trim line) = .error fault → fault.isMalformed = true

/-- The message of a line, if there is one. -/
def messageOf? (line : List Char) : Option Message := (Message.decode (trim line)).toOption

namespace ChildStep

/-- Whether the step is to end the child. -/
def isTerminate : ChildStep → Bool
  | .terminate => true
  | _ => false

/-- Every line that comes with the step is read to its end. -/
def IsReadable : ChildStep → Prop
  | .line _ text => Readable text
  | _ => True

/-- The message that comes with the step, if one does. -/
def message? : ChildStep → Option Message
  | .line _ text => messageOf? text
  | _ => none

/-- The line about the trouble of the child that comes with the step, without white space at its end; a blank one
is none. -/
def trouble? : ChildStep → Option (List Char)
  | .trouble text => if (trimEnd text).isEmpty then none else some (trimEnd text)
  | _ => none

theorem isTerminate_iff {step : ChildStep} : step.isTerminate = true ↔ step = .terminate := by
  cases step <;> simp [isTerminate]

end ChildStep

/-- What is called with what is read of a child. -/
inductive ChildCall where
  /-- The receiver of messages. -/
  | message (message : Message)
  /-- The receiver of the end: the code, and whether the end was asked for. -/
  | exit (code : Int) (requested : Bool)

/-- The calls of a report, in order: the end comes after what was read. -/
def ChildReport.calls (report : ChildReport) : List ChildCall :=
  report.messages.map .message ++ report.exits.map fun (code, requested) => .exit code requested

/-- Whether a message says that the child is ready. -/
def Message.isReady (message : Message) : Bool := decide (message.type? = some .ready)

/-- Only an input that takes what is written is written to without a fault. -/
theorem ChildInput.fault?_eq_none {input : ChildInput} : input.fault? = none ↔ input = .intact := by
  cases input <;> simp [fault?]

namespace Child

/-! ## Taking steps -/

/-- The child right after it was spawned. -/
def opened (child : Child) : Child := { child with spawned := some child.behaviour.spawn }

/-- The code with which the child ended, if it did. -/
def exitCode? (child : Child) : Option Int := child.spawned.bind (·.exitCode)

/-- The input of the child, once it is spawned. -/
def input? (child : Child) : Option ChildInput := child.spawned.map (·.input)

/-- Nobody reads the input of the child any more. -/
def breakInput (child : Child) : Child :=
  child.change fun spawned => { spawned with input := if spawned.input = .closed then .closed else .broken }

/-- The child ends, unless it did. -/
def die (child : Child) (code : Int) : Child :=
  child.change fun spawned => { spawned with exitCode := some (spawned.exitCode.getD code) }

/-- The reader comes to the end of the output of a child that has ended, and reports the end. -/
def notice (child : Child) : Child × ChildReport :=
  match child.exitCode? with
  | some code =>
    if child.reads then
      (child.change fun spawned => { spawned with reading := false }, ⟨[], [(code, child.exitRequested)], [], []⟩)
    else (child, .none)
  | none => (child, .none)

/-- Take a step. -/
def step (child : Child) : ChildStep → Child × ChildReport
  | .line fails text => child.readLine fails text
  | .trouble text => child.readTrouble text
  | .send command => ((child.send command).1, (child.send command).2.1)
  | .breakInput => (child.breakInput, .none)
  | .die code => (child.die code, .none)
  | .notice => child.notice
  | .terminate => child.terminate

/-- Take several steps: the child after them, and the report of each. -/
def steps : Child → List ChildStep → Child × List ChildReport
  | child, [] => (child, [])
  | child, step :: others =>
    let (next, report) := child.step step
    let (last, reports) := next.steps others
    (last, report :: reports)

@[simp] theorem steps_nil (child : Child) : child.steps [] = (child, []) := rfl

theorem steps_cons (child : Child) (step : ChildStep) (others : List ChildStep) :
    child.steps (step :: others) =
      (((child.step step).1.steps others).1, (child.step step).2 :: ((child.step step).1.steps others).2) :=
  rfl

/-- Steps after others go on where those end. -/
theorem steps_append (child : Child) (first second : List ChildStep) :
    child.steps (first ++ second) =
      (((child.steps first).1.steps second).1, (child.steps first).2 ++ ((child.steps first).1.steps second).2) := by
  induction first generalizing child with
  | nil => rfl
  | cons step first ih => rw [List.cons_append, steps_cons, ih, steps_cons, List.cons_append]

/-- One more step. -/
theorem steps_concat (child : Child) (history : List ChildStep) (step : ChildStep) :
    child.steps (history ++ [step]) =
      (((child.steps history).1.step step).1, (child.steps history).2 ++ [((child.steps history).1.step step).2]) := by
  rw [steps_append, steps_cons, steps_nil]

/-! ## Ending -/

/-- A child that lives is one that was spawned and has no code. -/
theorem isAlive_iff {child : Child} :
    child.isAlive = true ↔ ∃ spawned, child.spawned = some spawned ∧ spawned.exitCode = none := by
  rw [isAlive, Option.any_eq_true]
  simp

/-- A child that does not live does not end again. -/
theorem ended_of_not_isAlive {child : Child} (gone : child.isAlive = false) (code : Int) :
    child.ended code = (child, .none) := by
  unfold ended
  split
  · next spawned known =>
    rw [isAlive, known, Option.any_some] at gone
    rw [if_neg (Bool.eq_false_iff.mp gone)]
  · rfl

/-- A child that lives ends with the code, and its output is read no more. -/
theorem ended_of_lives {child : Child} {spawned : SpawnedChild} (known : child.spawned = some spawned)
    (lives : spawned.exitCode = none) (code : Int) :
    child.ended code =
      ({ child with spawned := some { spawned with exitCode := some code, reading := false } },
        ⟨[], if spawned.reading then [(code, child.exitRequested)] else [], [], []⟩) := by
  simp [ended, known, lives]

/-- The end of a child brings no message. -/
theorem messages_ended (child : Child) (code : Int) : (child.ended code).2.messages = [] := by
  unfold ended
  split
  · split <;> rfl
  · rfl

/-- A child that lives ends, and the reader comes to the end of its output. -/
theorem ended_eq {child : Child} (alive : child.isAlive = true) (code : Int) :
    child.ended code = (child.die code).notice := by
  obtain ⟨spawned, known, lives⟩ := isAlive_iff.mp alive
  rw [ended_of_lives known lives]
  obtain ⟨number, exitCode, input, killed, reading⟩ := spawned
  obtain rfl : exitCode = none := lives
  cases reading <;> simp [die, notice, change, exitCode?, reads, known, ChildReport.none]

/-- Whether the child would not end on the command to exit: it ignores it, or it does not get it. -/
def stays (child : Child) : Bool := child.behaviour.ignoresExit || decide (child.input? ≠ some .intact)

/-- The command to exit ends a child that heeds it; what else is written does nothing to a child. -/
theorem write_eq (child : Child) (command : Command) (line : List Char) :
    let heeded := command.name = Command.exit.name ∧ ¬ child.behaviour.ignoresExit
    child.write command line =
      ((if heeded then child.ended 0 else (child, .none)).1,
        ⟨[], [], [line], []⟩ ++ (if heeded then child.ended 0 else (child, .none)).2) := rfl

/-- What is sent to a spawned child is refused, or it is written to one that can be written to. -/
theorem send_cases {child : Child} {spawned : SpawnedChild} (known : child.spawned = some spawned)
    (command : Command) :
    (∃ error, child.send command = (child, .none, .error error)) ∨
      ∃ line, child.send command = ((child.write command line).1, (child.write command line).2, .ok ()) := by
  rw [send, known]
  cases command.takenName? with
  | some name => exact .inl ⟨_, rfl⟩
  | none =>
    cases command.encode with
    | error fault => exact .inl ⟨_, rfl⟩
    | ok line =>
      cases fault : spawned.input.fault? with
      | none => exact .inr ⟨line, by simp only [fault]⟩
      | some text => exact .inl ⟨.notWritten command.name text, by simp only [fault]⟩

/-- The command to exit is written to a spawned child unless it cannot be written to. -/
theorem send_exit {child : Child} {spawned : SpawnedChild} (known : child.spawned = some spawned) :
    child.send .exit =
      match spawned.input.fault? with
      | some text => (child, .none, .error (.notWritten Command.exit.name text))
      | none =>
        let written := child.write .exit (Command.exit.line ++ ['\n'])
        (written.1, written.2, .ok ()) := by
  have unnamed : Command.exit.takenName? = none := rfl
  have encoded : Command.exit.encode = .ok (Command.exit.line ++ ['\n']) := rfl
  cases fault : spawned.input.fault? <;> simp only [send, known, unnamed, encoded, fault]

/-- A child that has ended is not asked. -/
theorem askToExit_of_not_isAlive {child : Child} (gone : child.isAlive = false) :
    child.askToExit = (child, .none) := by
  rw [askToExit, if_neg (Bool.eq_false_iff.mp gone)]

/-- A child that stays is asked in vain. -/
theorem askToExit_of_stays {child : Child} {spawned : SpawnedChild} (known : child.spawned = some spawned)
    (lives : spawned.exitCode = none) (stays : child.stays = true) :
    ∃ written logs, child.askToExit = (child, ⟨[], [], written, logs⟩) := by
  rw [askToExit, if_pos (isAlive_iff.mpr ⟨spawned, known, lives⟩)]
  rw [send_exit known]
  cases fault : spawned.input.fault? with
  | some text => exact ⟨_, _, rfl⟩
  | none =>
    -- The command arrives, so the child ignores it.
    have intact := ChildInput.fault?_eq_none.mp fault
    have ignores : child.behaviour.ignoresExit = true := by
      simpa [Child.stays, input?, known, intact] using stays
    have unheeded : ¬ (Command.exit.name = Command.exit.name ∧ ¬ child.behaviour.ignoresExit = true) :=
      fun heeded => heeded.2 ignores
    rw [write_eq, if_neg unheeded]
    exact ⟨_, _, rfl⟩

/-- A child that does not stay ends with code zero when it is asked. -/
theorem askToExit_of_not_stays {child : Child} {spawned : SpawnedChild} (known : child.spawned = some spawned)
    (lives : spawned.exitCode = none) (goes : child.stays = false) :
    child.askToExit =
      ((child.ended 0).1, ⟨[], [], [Command.exit.line ++ ['\n']], []⟩ ++ (child.ended 0).2) := by
  obtain ⟨heeds, intact⟩ : child.behaviour.ignoresExit = false ∧ spawned.input = .intact := by
    simpa [Child.stays, input?, known] using goes
  have heeded : Command.exit.name = Command.exit.name ∧ ¬ child.behaviour.ignoresExit = true :=
    ⟨rfl, Bool.eq_false_iff.mp heeds⟩
  rw [askToExit, if_pos (isAlive_iff.mpr ⟨spawned, known, lives⟩), send_exit known,
    ChildInput.fault?_eq_none.mpr intact]
  dsimp only
  rw [write_eq, if_pos heeded]

/-- The child after it was asked to exit. -/
def asked (child : Child) : Child := ({ child with exitRequested := true }.askToExit).1

/-- A child lives on after it was asked exactly if it lived and stays. -/
theorem isAlive_asked (child : Child) : child.asked.isAlive = (child.isAlive && child.stays) := by
  let requested : Child := { child with exitRequested := true }
  cases alive : child.isAlive with
  | false =>
    have lifeless : requested.isAlive = false := alive
    rw [asked, askToExit_of_not_isAlive lifeless, Bool.false_and]
    exact alive
  | true =>
    obtain ⟨spawned, known, lives⟩ := isAlive_iff.mp alive
    have knownRequested : requested.spawned = some spawned := known
    rw [asked, Bool.true_and]
    cases stays : child.stays with
    | true =>
      obtain ⟨written, logs, same⟩ := askToExit_of_stays knownRequested lives stays
      rw [same]
      exact alive
    | false =>
      rw [askToExit_of_not_stays knownRequested lives stays, ended_of_lives knownRequested lives]
      rfl

/-- A child that has ended is not killed. -/
theorem kill_of_ended {child : Child} {spawned : SpawnedChild} (known : child.spawned = some spawned)
    {code : Int} (gone : spawned.exitCode = some code) : child.kill = (child, .none) := by
  simp [kill, known, gone]

/-- A child that lives is killed, with a warning. -/
theorem kill_of_lives {child : Child} {spawned : SpawnedChild} (known : child.spawned = some spawned)
    (lives : spawned.exitCode = none) :
    ∃ logs, child.kill =
      ({ child with spawned := some { spawned with exitCode := some killedCode, killed := true, reading := false } },
        ⟨[], if spawned.reading then [(killedCode, child.exitRequested)] else [], [], logs⟩) := by
  have marked : (child.change fun spawned => { spawned with killed := true }).spawned =
      some { spawned with killed := true } := by rw [change, known]; rfl
  simp only [kill, known, lives, Option.isNone_none, if_true, ended_of_lives marked lives]
  exact ⟨_, rfl⟩

/-- A child is ended by asking it, killing it and closing its input. -/
theorem terminate_eq {child : Child} {spawned : SpawnedChild} (known : child.spawned = some spawned) :
    let asking := ({ child with exitRequested := true } : Child).askToExit
    child.terminate = (asking.1.kill.1.closeInput.1, asking.2 ++ asking.1.kill.2) := by
  have there : ¬ child.spawned.isNone = true := by simp [known]
  rw [terminate, if_neg there]

/-- A child that has ended is neither asked nor killed, but its input is closed. -/
theorem terminate_of_ended {child : Child} {spawned : SpawnedChild} (known : child.spawned = some spawned)
    {code : Int} (gone : spawned.exitCode = some code) :
    child.terminate =
      ({ child with exitRequested := true, spawned := some { spawned with input := .closed } }, .none) := by
  let requested : Child := { child with exitRequested := true }
  have knownRequested : requested.spawned = some spawned := known
  have lifeless : requested.isAlive = false := by simp [isAlive, knownRequested, gone]
  rw [terminate_eq known, askToExit_of_not_isAlive lifeless, kill_of_ended knownRequested gone, closeInput, change,
    knownRequested]
  rfl

/-- A child that lives ends when it is asked, or else it is killed; its input is closed, and its end is reported as
one that was asked for. -/
theorem terminate_of_lives {child : Child} {spawned : SpawnedChild} (known : child.spawned = some spawned)
    (lives : spawned.exitCode = none) :
    ∃ code written logs, child.terminate =
      ({ child with exitRequested := true, spawned := some { spawned with
          exitCode := some code, input := .closed, killed := spawned.killed || child.stays, reading := false } },
        ⟨[], if spawned.reading then [(code, true)] else [], written, logs⟩) := by
  let requested : Child := { child with exitRequested := true }
  have knownRequested : requested.spawned = some spawned := known
  rw [terminate_eq known]
  cases stays : child.stays with
  | true =>
    obtain ⟨written, asking, same⟩ := askToExit_of_stays knownRequested lives stays
    obtain ⟨killing, killed⟩ := kill_of_lives knownRequested lives
    rw [same, killed, Bool.or_true]
    exact ⟨killedCode, written ++ [], asking ++ killing, rfl⟩
  | false =>
    let gone : Child := { requested with spawned := some { spawned with exitCode := some 0, reading := false } }
    have knownGone : gone.spawned = some { spawned with exitCode := some 0, reading := false } := rfl
    have spared := kill_of_ended knownGone rfl
    rw [askToExit_of_not_stays knownRequested lives stays, ended_of_lives knownRequested lives, spared, Bool.or_false]
    refine ⟨0, [Command.exit.line ++ ['\n']] ++ [] ++ [], [], ?_⟩
    cases spawned.reading <;> rfl

/-! ## The life of a child -/

/-- What a step does to the life of a child. -/
structure Lives (child : Child) (step : ChildStep) (next : Child) (report : ChildReport) : Prop where
  /-- It stays spawned. -/
  spawned : next.spawned.isSome = true
  /-- Its settings are the same. -/
  settings : next.settings = child.settings
  /-- It behaves as before. -/
  behaviour : next.behaviour = child.behaviour
  /-- It is asked to end by the step that ends it. -/
  asked : next.exitRequested = (child.exitRequested || step.isTerminate)
  /-- It ends once only. -/
  code : ∀ code, child.exitCode? = some code → next.exitCode? = some code
  /-- Its input stays closed. -/
  closed : child.input? = some .closed → next.input? = some .closed
  /-- It is killed if it lives on after it was asked, by the step that ends it. -/
  killed : next.isKilled = (child.isKilled || (step.isTerminate && child.asked.isAlive))
  /-- Its end is reported when the reader comes to the end of its output. -/
  reported : next.reads = child.reads ∧ report.exits = [] ∨
    child.reads = true ∧ next.reads = false ∧
      ∃ code, next.exitCode? = some code ∧ report.exits = [(code, next.exitRequested)]
  /-- The step that ends it leaves it without life and with its input closed. -/
  gone : step.isTerminate = true → next.isAlive = false ∧ next.input? = some .closed

section Steps

variable {child next : Child} {step : ChildStep} {report : ChildReport} {spawned after : SpawnedChild}

/-- The life of a child as it is told by its spawned part, for a step other than to end it. -/
theorem Lives.of_spawned (known : child.spawned = some spawned) (changed : next.spawned = some after)
    (other : step.isTerminate = false) (settings : next.settings = child.settings)
    (behaviour : next.behaviour = child.behaviour) (asked : next.exitRequested = child.exitRequested)
    (code : ∀ code, spawned.exitCode = some code → after.exitCode = some code)
    (closed : spawned.input = .closed → after.input = .closed) (killed : after.killed = spawned.killed)
    (reported : after.reading = spawned.reading ∧ report.exits = [] ∨
      spawned.reading = true ∧ after.reading = false ∧
        ∃ code, after.exitCode = some code ∧ report.exits = [(code, next.exitRequested)]) :
    Lives child step next report where
  spawned := by rw [changed, Option.isSome_some]
  settings := settings
  behaviour := behaviour
  asked := by rw [asked, other, Bool.or_false]
  code := by simpa [exitCode?, known, changed] using code
  closed := by simpa [input?, known, changed] using closed
  killed := by simp [isKilled, known, changed, killed, other]
  reported := by simpa [reads, exitCode?, known, changed] using reported
  gone isTerminate := by rw [other] at isTerminate; cases isTerminate

/-- A step that leaves the spawned part as it is does nothing to the life of the child. -/
theorem Lives.of_same (known : child.spawned = some spawned) (same : next.spawned = child.spawned)
    (other : step.isTerminate = false) (settings : next.settings = child.settings)
    (behaviour : next.behaviour = child.behaviour) (asked : next.exitRequested = child.exitRequested)
    (silent : report.exits = []) : Lives child step next report :=
  .of_spawned known (same.trans known) other settings behaviour asked (fun _ => id) id rfl (.inl ⟨rfl, silent⟩)

/-- A child that is ended by another step. -/
theorem lives_ended (known : child.spawned = some spawned) (other : step.isTerminate = false) (code : Int)
    (exits : report.exits = (child.ended code).2.exits) : Lives child step (child.ended code).1 report := by
  cases lives : spawned.exitCode with
  | some code' =>
    have gone : child.isAlive = false := by simp [isAlive, known, lives]
    rw [ended_of_not_isAlive gone] at exits ⊢
    exact .of_same known rfl other rfl rfl rfl exits
  | none =>
    rw [ended_of_lives known lives] at exits ⊢
    refine .of_spawned known rfl other rfl rfl rfl ?_ id rfl ?_
    · intro code' was
      rw [lives] at was
      cases was
    · cases reading : spawned.reading with
      | false => exact .inl ⟨rfl, by rw [exits, reading]; rfl⟩
      | true => exact .inr ⟨rfl, rfl, code, rfl, by rw [exits, reading]; rfl⟩

theorem lives_die (known : child.spawned = some spawned) (code : Int) :
    Lives child (.die code) (child.die code) .none := by
  have changed : (child.die code).spawned = some { spawned with exitCode := some (spawned.exitCode.getD code) } := by
    rw [die, change, known]; rfl
  refine .of_spawned known changed rfl rfl rfl rfl ?_ id rfl (.inl ⟨rfl, rfl⟩)
  intro earlier was
  simp [was]

theorem lives_breakInput (known : child.spawned = some spawned) :
    Lives child .breakInput child.breakInput .none := by
  have changed : child.breakInput.spawned =
      some { spawned with input := if spawned.input = .closed then .closed else .broken } := by
    rw [Child.breakInput, change, known]; rfl
  refine .of_spawned known changed rfl rfl rfl rfl (fun _ => id) ?_ rfl (.inl ⟨rfl, rfl⟩)
  intro closed
  simp [closed]

theorem lives_notice (known : child.spawned = some spawned) :
    Lives child .notice child.notice.1 child.notice.2 := by
  unfold notice
  split
  · next code gone =>
    split
    · next reading =>
      have changed : (child.change fun spawned => { spawned with reading := false }).spawned =
          some { spawned with reading := false } := by rw [change, known]; rfl
      refine .of_spawned known changed rfl rfl rfl rfl (fun _ => id) id rfl (.inr ⟨?_, rfl, code, ?_, rfl⟩)
      · simpa [reads, known] using reading
      · simpa [exitCode?, known] using gone
    · exact .of_same known rfl rfl rfl rfl rfl rfl
  · exact .of_same known rfl rfl rfl rfl rfl rfl

theorem lives_send (known : child.spawned = some spawned) (command : Command) :
    Lives child (.send command) (child.send command).1 (child.send command).2.1 := by
  rcases send_cases known command with ⟨error, refused⟩ | ⟨line, sent⟩
  · rw [refused]
    exact .of_same known rfl rfl rfl rfl rfl rfl
  · rw [sent, write_eq]
    -- The command to exit ends the child if it heeds it; no other does anything to it.
    by_cases heeded : command.name = Command.exit.name ∧ ¬ child.behaviour.ignoresExit
    · simp only [if_pos heeded]
      exact lives_ended known rfl 0 rfl
    · simp only [if_neg heeded]
      exact .of_same known rfl rfl rfl rfl rfl rfl

theorem lives_terminate (known : child.spawned = some spawned) :
    Lives child .terminate child.terminate.1 child.terminate.2 := by
  cases lives : spawned.exitCode with
  | some code =>
    rw [terminate_of_ended known lives]
    constructor
    case spawned => rfl
    case settings => rfl
    case behaviour => rfl
    case asked => rw [ChildStep.isTerminate, Bool.or_true]
    case code => simp [exitCode?, known]
    case closed => exact fun _ => rfl
    case killed =>
      rw [isAlive_asked]
      simp [isKilled, isAlive, known, lives]
    case reported => exact .inl ⟨by simp [reads, known], rfl⟩
    case gone => exact fun _ => ⟨by simp [isAlive, lives], rfl⟩
  | none =>
    obtain ⟨code, written, logs, same⟩ := terminate_of_lives known lives
    rw [same]
    constructor
    case spawned => rfl
    case settings => rfl
    case behaviour => rfl
    case asked => rw [ChildStep.isTerminate, Bool.or_true]
    case code => simp [exitCode?, known, lives]
    case closed => exact fun _ => rfl
    case killed =>
      rw [isAlive_asked]
      simp [isKilled, isAlive, known, lives, ChildStep.isTerminate]
    case reported =>
      cases reading : spawned.reading with
      | false => exact .inl ⟨by simp [reads, known, reading], rfl⟩
      | true => exact .inr ⟨by simp [reads, known, reading], rfl, code, rfl, rfl⟩
    case gone => exact fun _ => ⟨rfl, rfl⟩

end Steps

/-! ## What is read of a child -/

/-- The child after a message, if there is one: one that says that the child is ready is noted. -/
def note (child : Child) (heard : Option Message) : Child :=
  { child with
    ready := child.ready || heard.any (·.isReady)
    version := ((heard.filter (·.isReady)).map (·.get "node")).getD child.version }

/-- The child after a line about its trouble, if there is one: the last lines are kept. -/
def keep (child : Child) (heard : Option (List Char)) : Child :=
  { child with troubleLines := (heard.map fun line => lastLines (child.troubleLines ++ [line])).getD child.troubleLines }

@[simp] theorem note_none (child : Child) : child.note none = child := by
  simp [note]

theorem note_of_isReady (child : Child) {message : Message} (ready : message.isReady = true) :
    child.note (some message) = { child with ready := true, version := message.get "node" } := by
  simp [note, Option.filter_some, ready]

theorem note_of_not_isReady (child : Child) {message : Message} (other : message.isReady = false) :
    child.note (some message) = child := by
  simp [note, Option.filter_some, other]

@[simp] theorem keep_none (child : Child) : child.keep none = child := rfl

/-- A line that is read to its end hands on its message, unless that says that the child is ready; any other line
is dropped. -/
theorem readLine_eq (child : Child) (fails : Message → Bool) {line : List Char} (readable : Readable line) :
    ∃ logs, child.readLine fails line =
      if child.reads then
        (child.note (messageOf? line), ⟨(messageOf? line).toList.filter (!·.isReady), [], [], logs⟩)
      else (child, .none) := by
  rw [readLine]
  by_cases reading : child.reads = true
  · rw [if_pos (show child.spawned.any (·.reading) = true from reading)]
    simp only [if_pos reading]
    split
    · next empty =>
      have nothing : messageOf? line = none := by
        rw [messageOf?, List.isEmpty_iff.mp empty]
        rfl
      rw [nothing, note_none]
      exact ⟨[], rfl⟩
    · cases decoded : Message.decode (trim line) with
      | error fault =>
        have nothing : messageOf? line = none := by rw [messageOf?, decoded]; rfl
        rw [nothing, note_none]
        simp only [readable fault decoded, if_true]
        exact ⟨_, rfl⟩
      | ok message =>
        have held : messageOf? line = some message := by rw [messageOf?, decoded]; rfl
        rw [held, Option.toList_some]
        cases ready : message.isReady with
        | true =>
          simp only [take, if_pos (of_decide_eq_true ready), note_of_isReady child ready]
          exact ⟨[], by rw [List.filter_cons_of_neg (by simp [ready])]; rfl⟩
        | false =>
          simp only [take, if_neg (of_decide_eq_false ready), note_of_not_isReady child ready]
          exact ⟨_, by rw [List.filter_cons_of_pos (by simp [ready])]; rfl⟩
  · rw [if_neg (show ¬ child.spawned.any (·.reading) = true from reading)]
    simp only [if_neg reading]
    exact ⟨[], trivial⟩

/-- A line about the trouble of a child is kept without the white space at its end; a blank one is dropped. -/
theorem readTrouble_eq (child : Child) (text : List Char) :
    ∃ logs, child.readTrouble text = (child.keep (ChildStep.trouble text).trouble?, ⟨[], [], [], logs⟩) := by
  rw [readTrouble, ChildStep.trouble?]
  split
  · exact ⟨[], rfl⟩
  · exact ⟨_, rfl⟩

/-- The message that a step brings, while the output of the child is read. -/
def heard (child : Child) (step : ChildStep) : Option Message := if child.reads then step.message? else none

/-- What a step tells of a child. -/
structure Hears (child : Child) (step : ChildStep) (next : Child) (report : ChildReport) : Prop where
  /-- A message that says that the child is ready is noted. -/
  ready : next.ready = (child.note (child.heard step)).ready
  /-- The version is that of such a message. -/
  version : next.version = (child.note (child.heard step)).version
  /-- Any other message is handed on. -/
  messages : report.messages = (child.heard step).toList.filter (!·.isReady)
  /-- The last lines about its trouble are kept. -/
  troubles : next.troubleLines = (child.keep step.trouble?).troubleLines

section Steps

variable {child next : Child} {step : ChildStep} {report : ChildReport}

/-- A step that brings neither a line nor a line about trouble tells nothing. -/
theorem Hears.of_silent (noMessage : step.message? = none) (noTrouble : step.trouble? = none)
    (ready : next.ready = child.ready) (version : next.version = child.version)
    (troubles : next.troubleLines = child.troubleLines) (silent : report.messages = []) :
    Hears child step next report := by
  have nothing : child.heard step = none := by rw [heard, noMessage, ite_self]
  exact ⟨by rw [nothing, note_none, ready], by rw [nothing, note_none, version], by rw [nothing, silent]; rfl,
    by rw [noTrouble, keep_none, troubles]⟩

/-- A child that ends tells nothing. -/
theorem hears_ended (noMessage : step.message? = none) (noTrouble : step.trouble? = none) (code : Int)
    (silent : report.messages = []) : Hears child step (child.ended code).1 report := by
  cases alive : child.isAlive with
  | false =>
    rw [ended_of_not_isAlive alive]
    exact .of_silent noMessage noTrouble rfl rfl rfl silent
  | true =>
    obtain ⟨spawned, known, lives⟩ := isAlive_iff.mp alive
    rw [ended_of_lives known lives]
    exact .of_silent noMessage noTrouble rfl rfl rfl silent

theorem hears_send {spawned : SpawnedChild} (known : child.spawned = some spawned) (command : Command) :
    Hears child (.send command) (child.send command).1 (child.send command).2.1 := by
  rcases send_cases known command with ⟨error, refused⟩ | ⟨line, sent⟩
  · rw [refused]
    exact .of_silent rfl rfl rfl rfl rfl rfl
  · rw [sent, write_eq]
    by_cases heeded : command.name = Command.exit.name ∧ ¬ child.behaviour.ignoresExit
    · simp only [if_pos heeded]
      exact hears_ended rfl rfl 0 (messages_ended child 0)
    · simp only [if_neg heeded]
      exact .of_silent rfl rfl rfl rfl rfl rfl

theorem hears_notice (child : Child) : Hears child .notice child.notice.1 child.notice.2 := by
  unfold notice
  split
  · split
    · exact .of_silent rfl rfl rfl rfl rfl rfl
    · exact .of_silent rfl rfl rfl rfl rfl rfl
  · exact .of_silent rfl rfl rfl rfl rfl rfl

theorem hears_terminate {spawned : SpawnedChild} (known : child.spawned = some spawned) :
    Hears child .terminate child.terminate.1 child.terminate.2 := by
  cases lives : spawned.exitCode with
  | some code =>
    rw [terminate_of_ended known lives]
    exact .of_silent rfl rfl rfl rfl rfl rfl
  | none =>
    obtain ⟨code, written, logs, same⟩ := terminate_of_lives known lives
    rw [same]
    exact .of_silent rfl rfl rfl rfl rfl rfl

/-- What every step tells of a spawned child. -/
theorem hears (there : child.spawned.isSome = true) (readable : step.IsReadable) :
    Hears child step (child.step step).1 (child.step step).2 := by
  obtain ⟨spawned, known⟩ := Option.isSome_iff_exists.mp there
  cases step with
  | line fails text =>
    obtain ⟨logs, same⟩ := readLine_eq child fails readable
    rw [Child.step, same]
    by_cases reading : child.reads = true
    · have heard : child.heard (.line fails text) = messageOf? text := if_pos reading
      rw [if_pos reading, ← heard]
      exact ⟨rfl, rfl, rfl, rfl⟩
    · have heard : child.heard (.line fails text) = none := if_neg reading
      rw [if_neg reading]
      refine ⟨?_, ?_, ?_, rfl⟩
      · rw [heard, note_none]
      · rw [heard, note_none]
      · rw [heard]
        rfl
  | trouble text =>
    obtain ⟨logs, same⟩ := readTrouble_eq child text
    have heard : child.heard (.trouble text) = none := ite_self none
    rw [Child.step, same]
    refine ⟨?_, ?_, ?_, rfl⟩
    · rw [heard, note_none]
      rfl
    · rw [heard, note_none]
      rfl
    · rw [heard]
      rfl
  | send command => exact hears_send known command
  | breakInput => exact .of_silent rfl rfl rfl rfl rfl rfl
  | die code => exact .of_silent rfl rfl rfl rfl rfl rfl
  | notice => exact hears_notice child
  | terminate => exact hears_terminate known

/-- What every step does to the life of a spawned child. -/
theorem lives (there : child.spawned.isSome = true) (readable : step.IsReadable) :
    Lives child step (child.step step).1 (child.step step).2 := by
  obtain ⟨spawned, known⟩ := Option.isSome_iff_exists.mp there
  cases step with
  | line fails text =>
    obtain ⟨logs, same⟩ := readLine_eq child fails readable
    rw [Child.step, same]
    split
    · exact .of_same known rfl rfl rfl rfl rfl rfl
    · exact .of_same known rfl rfl rfl rfl rfl rfl
  | trouble text =>
    obtain ⟨logs, same⟩ := readTrouble_eq child text
    rw [Child.step, same]
    exact .of_same known rfl rfl rfl rfl rfl rfl
  | send command => exact lives_send known command
  | breakInput => exact lives_breakInput known
  | die code => exact lives_die known code
  | notice => exact lives_notice known
  | terminate => exact lives_terminate known

end Steps

end Child

end Marginalia
