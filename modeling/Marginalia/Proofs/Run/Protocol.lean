import Marginalia.Proofs.Preparation.LineDelta
import Marginalia.Run

/-! # The protocol of a run
A run is used in any order: it is started, fed, told what its host says, told that the host is gone,
ended, and the pipe to its host may open and close in between (`RunStep`). Whatever the order, the
state only goes forward, and the commands that the host accepted are evaluations of ascending lines,
closed by at most one end of the input. The invariant that carries this through a history
(`Run.Orderly`) ties the commands to the number of the next line and to the state. -/

namespace Marginalia

/-! ## Logical lines on the pipe -/

/-- The command that feeds a logical line. -/
def LogicalLine.command (logical : LogicalLine) : Command :=
  .eval logical.line (String.ofList logical.code)

/-- A logical line is followed by a later physical line. -/
theorem LogicalLine.line_lt_next (logical : LogicalLine) : logical.line < logical.next := by
  rw [LogicalLine.next]
  omega

/-- Logical lines that ascend from a physical line, each from the line after the one before it. -/
def AscendFrom : Int → List LogicalLine → Prop
  | _, [] => True
  | line, logical :: lines => line ≤ logical.line ∧ AscendFrom logical.next lines

@[simp] theorem ascendFrom_nil (line : Int) : AscendFrom line [] := trivial

@[simp] theorem ascendFrom_cons (line : Int) (logical : LogicalLine) (lines : List LogicalLine) :
    AscendFrom line (logical :: lines) ↔ line ≤ logical.line ∧ AscendFrom logical.next lines := Iff.rfl

/-- Numbered lines ascend from the number of the first. -/
theorem ascendFrom_numberLines (line : Int) (codes : List (List Char)) :
    AscendFrom line (numberLines line codes) := by
  induction codes generalizing line with
  | nil => trivial
  | cons code codes ih =>
    rw [numberLines, ascendFrom_cons]
    exact ⟨Int.le_refl line, ih _⟩

/-- The lines of a document ascend from its first line. -/
theorem ascendFrom_planLines (code : List Char) (line : Int) : AscendFrom line (planLines code line) :=
  ascendFrom_numberLines line (Text.physicalLines code)

/-- Line numbers that ascend within bounds, the lower one included. -/
structure AscendWithin (low high : Int) (lines : List Int) : Prop where
  /-- They ascend. -/
  pairwise : lines.Pairwise (· < ·)
  /-- None is below the lower bound. -/
  low_le : ∀ line ∈ lines, low ≤ line
  /-- All are below the upper bound. -/
  lt_high : ∀ line ∈ lines, line < high

namespace AscendWithin

variable {low middle high : Int} {lines others : List Int}

theorem nil (low high : Int) : AscendWithin low high [] :=
  ⟨List.Pairwise.nil, by simp, by simp⟩

/-- A number in front of numbers from the next one on. -/
theorem cons {line : Int} (first : low ≤ line) (after : line < middle) (bounds : middle ≤ high)
    (ascend : AscendWithin middle high lines) : AscendWithin low high (line :: lines) := by
  refine ⟨List.Pairwise.cons ?_ ascend.pairwise, ?_, ?_⟩
  · intro other member
    exact Int.lt_of_lt_of_le after (ascend.low_le other member)
  · intro other member
    rcases List.mem_cons.mp member with rfl | member
    · exact first
    · have above := ascend.low_le other member
      omega
  · intro other member
    rcases List.mem_cons.mp member with rfl | member
    · exact Int.lt_of_lt_of_le after bounds
    · exact ascend.lt_high other member

/-- Numbers below a bound and then numbers from the bound on. -/
theorem append (below : AscendWithin low middle lines) (above : AscendWithin middle high others)
    (lower : low ≤ middle) (upper : middle ≤ high) : AscendWithin low high (lines ++ others) := by
  refine ⟨List.pairwise_append.mpr ⟨below.pairwise, above.pairwise, ?_⟩, ?_, ?_⟩
  · intro first inFirst second inSecond
    exact Int.lt_of_lt_of_le (below.lt_high first inFirst) (above.low_le second inSecond)
  · intro line member
    rcases List.mem_append.mp member with inFirst | inSecond
    · exact below.low_le line inFirst
    · exact Int.le_trans lower (above.low_le line inSecond)
  · intro line member
    rcases List.mem_append.mp member with inFirst | inSecond
    · exact Int.lt_of_lt_of_le (below.lt_high line inFirst) upper
    · exact above.lt_high line inSecond

end AscendWithin

namespace Run

/-- The run after its host accepted some more commands, with another number for the next line. -/
def afterSending (run : Run) (commands : List Command) (nextLine : Int) : Run :=
  { run with nextLine, pipe := { run.pipe with accepted := run.pipe.accepted ++ commands } }

section AfterSending

variable (run : Run) (commands others : List Command) (nextLine later : Int)

@[simp] theorem state_afterSending : (run.afterSending commands nextLine).state = run.state := rfl

@[simp] theorem drained_afterSending : (run.afterSending commands nextLine).drained = run.drained := rfl

@[simp] theorem nextLine_afterSending : (run.afterSending commands nextLine).nextLine = nextLine := rfl

@[simp] theorem accepted_afterSending :
    (run.afterSending commands nextLine).pipe.accepted = run.pipe.accepted ++ commands := rfl

/-- Sending nothing and keeping the number changes nothing. -/
@[simp] theorem afterSending_nil : run.afterSending [] run.nextLine = run := by
  simp [afterSending]

/-- Commands sent one after another. -/
@[simp] theorem afterSending_afterSending :
    (run.afterSending commands nextLine).afterSending others later =
      run.afterSending (commands ++ others) later := by
  simp [afterSending]

end AfterSending

/-- A line that the host accepts is sent before the others. -/
theorem sendLines_cons_of_isOpen (run : Run) (logical : LogicalLine) (lines : List LogicalLine)
    (written : logical.command.fault? = none) (accepts : run.pipe.isOpen = true) :
    run.sendLines (logical :: lines) =
      (((run.afterSending [logical.command] logical.next).sendLines lines).1,
        ((run.afterSending [logical.command] logical.next).sendLines lines).2.map
          fun delivery => { delivery with count := delivery.count + 1 }) := by
  rw [LogicalLine.command] at written
  simp [sendLines, written, Pipe.send?, accepts, afterSending, LogicalLine.command]

/-- A line that the host does not accept is the last one tried. -/
theorem sendLines_cons_of_not_isOpen (run : Run) (logical : LogicalLine) (lines : List LogicalLine)
    (written : logical.command.fault? = none) (refuses : run.pipe.isOpen = false) :
    run.sendLines (logical :: lines) = (run.afterSending [] logical.next, .ok ⟨0, some logical.line⟩) := by
  rw [LogicalLine.command] at written
  simp [sendLines, written, Pipe.send?, refuses, afterSending]

/-- A line that cannot be written is the last one tried. -/
theorem sendLines_cons_of_fault (run : Run) (logical : LogicalLine) (lines : List LogicalLine)
    {fault : NumeralError} (failed : logical.command.fault? = some fault) :
    run.sendLines (logical :: lines) = (run.afterSending [] logical.next, .error fault) := by
  rw [LogicalLine.command] at failed
  simp [sendLines, failed, afterSending]

/-- Sending logical lines appends the commands of the first of them to what the host accepted and
moves the number of the next line; nothing else of the run changes. -/
theorem sendLines_spec (run : Run) (lines : List LogicalLine) (ascend : AscendFrom run.nextLine lines) :
    ∃ (sent : List LogicalLine) (nextLine : Int),
      (run.sendLines lines).1 = run.afterSending (sent.map LogicalLine.command) nextLine ∧
      sent <+: lines ∧
      (∀ delivery, (run.sendLines lines).2 = .ok delivery →
        delivery.count = sent.length ∧ (delivery.stoppedAt = none ↔ sent = lines)) ∧
      run.nextLine ≤ nextLine ∧ AscendWithin run.nextLine nextLine (sent.map (·.line)) := by
  induction lines generalizing run with
  | nil =>
    refine ⟨[], run.nextLine, ?_, List.prefix_rfl, ?_, Int.le_refl _, .nil _ _⟩
    · simp [sendLines]
    · rintro delivery same
      cases same
      exact ⟨rfl, iff_of_true rfl rfl⟩
  | cons logical lines ih =>
    obtain ⟨first, others⟩ := ascend
    have after := logical.line_lt_next
    cases written : logical.command.fault? with
    | some fault =>
      rw [sendLines_cons_of_fault run logical lines written]
      exact ⟨[], logical.next, rfl, List.nil_prefix, nofun, by omega, .nil _ _⟩
    | none =>
      cases accepts : run.pipe.isOpen with
      | false =>
        rw [sendLines_cons_of_not_isOpen run logical lines written accepts]
        refine ⟨[], logical.next, rfl, List.nil_prefix, ?_, by omega, .nil _ _⟩
        rintro delivery same
        cases same
        exact ⟨rfl, by simp⟩
      | true =>
        rw [sendLines_cons_of_isOpen run logical lines written accepts]
        obtain ⟨sent, nextLine, result, isPrefix, complete, bounds, numbers⟩ :=
          ih (run.afterSending [logical.command] logical.next) others
        refine ⟨logical :: sent, nextLine, ?_, ?_, ?_, ?_, ?_⟩
        · simpa using result
        · exact (List.prefix_cons_inj logical).mpr isPrefix
        · intro delivery delivered
          cases sending : ((run.afterSending [logical.command] logical.next).sendLines lines).2 with
          | error fault =>
            rw [sending] at delivered
            cases delivered
          | ok earlier =>
            rw [sending] at delivered
            cases delivered
            obtain ⟨count, whole⟩ := complete earlier sending
            exact ⟨congrArg (· + 1) count, by simpa using whole⟩
        · exact Int.le_trans (Int.le_trans first (Int.le_of_lt after)) bounds
        · exact .cons first after bounds numbers

/-! ## Feeding -/

/-- The end of the input, if it is over. -/
def endIf (ended : Bool) : List Command := if ended then [.endOfInput] else []

end Run

/-- A report without events and failures. -/
def RunReport.OnlyLogs (report : RunReport) : Prop := report.events = [] ∧ report.failures = []

@[simp] theorem RunReport.onlyLogs_none : RunReport.none.OnlyLogs := ⟨rfl, rfl⟩

@[simp] theorem RunReport.onlyLogs_ofLogs (logs : List Log.Record) : (RunReport.ofLogs logs).OnlyLogs :=
  ⟨rfl, rfl⟩

theorem RunReport.OnlyLogs.append {first second : RunReport} (left : first.OnlyLogs)
    (right : second.OnlyLogs) : (first ++ second).OnlyLogs := by
  refine ⟨?_, ?_⟩
  · rw [events_append, left.1, right.1, List.append_nil]
  · rw [failures_append, left.2, right.2, List.append_nil]

namespace Run

/-- The end of the input is accepted or lost, and nothing else happens. -/
theorem sendEnd_spec (run : Run) :
    ∃ ended, run.sendEnd.1 = run.afterSending (endIf ended) run.nextLine ∧ run.sendEnd.2.OnlyLogs := by
  cases accepts : run.pipe.isOpen with
  | false =>
    refine ⟨false, ?_, ?_⟩
    · simp [sendEnd, Pipe.send?, accepts, endIf]
    · simp [sendEnd, Pipe.send?, accepts]
  | true =>
    refine ⟨true, ?_, ?_⟩
    · simp [sendEnd, Pipe.send?, accepts, endIf, afterSending]
    · simp [sendEnd, Pipe.send?, accepts]

/-- A run that is not running delivers nothing. -/
theorem deliver_of_ne_running {run : Run} (code : List Char) (other : run.state ≠ .running) :
    run.deliver code = (run, .none, .error (.cannotFeed run.state)) := by
  rw [deliver, if_neg other]

/-- A document that has no plan is not delivered at all. -/
theorem deliver_of_unplanned {run : Run} {code : List Char} (running : run.state = .running) {fault : NumeralError}
    (unplanned : planLines? code run.nextLine = .error fault) :
    run.deliver code = (run, .none, .error (.numeral fault)) := by
  rw [deliver, if_pos running, unplanned]

/-- Delivering a document sends the first of its lines in order, and the end of the input only after
all of them; where it breaks off, there is no end. -/
theorem deliver_spec (run : Run) (code : List Char) (running : run.state = .running) :
    ∃ (sent : List LogicalLine) (nextLine : Int) (ended : Bool),
      (run.deliver code).1 =
        run.afterSending (sent.map LogicalLine.command ++ endIf ended) nextLine ∧
      sent <+: planLines code run.nextLine ∧
      (∀ delivery, (run.deliver code).2.2 = .ok delivery → delivery.count = sent.length ∧
        (delivery.stoppedAt = none ↔ sent = planLines code run.nextLine) ∧
        (ended = true → delivery.stoppedAt = none)) ∧
      (∀ error, (run.deliver code).2.2 = .error error → ended = false) ∧
      run.nextLine ≤ nextLine ∧ AscendWithin run.nextLine nextLine (sent.map (·.line)) ∧
      (run.deliver code).2.1.OnlyLogs := by
  cases planned : planLines? code run.nextLine with
  | error fault =>
    rw [deliver_of_unplanned running planned]
    exact ⟨[], run.nextLine, false, by simp [endIf], List.nil_prefix, nofun, fun _ _ => rfl, Int.le_refl _,
      .nil _ _, RunReport.onlyLogs_none⟩
  | ok lines =>
    obtain rfl := Marker.planLines_of_planLines? planned
    obtain ⟨sent, nextLine, result, isPrefix, complete, bounds, numbers⟩ :=
      run.sendLines_spec (planLines code run.nextLine) (ascendFrom_planLines code run.nextLine)
    rcases sending : run.sendLines (planLines code run.nextLine) with ⟨after, fault | delivery⟩
    · rw [sending] at result
      have broken : run.deliver code = (after, .none, .error (.numeral fault)) := by
        simp only [deliver, if_pos running, planned, sending]
      rw [broken]
      exact ⟨sent, nextLine, false, by simpa [endIf] using result, isPrefix, nofun, fun _ _ => rfl, bounds, numbers,
        RunReport.onlyLogs_none⟩
    · rw [sending] at result complete
      obtain ⟨count, whole⟩ := complete delivery rfl
      cases stopped : delivery.stoppedAt with
      | some line =>
        have short : run.deliver code = (after, .ofLogs [after.log .warning
            (s!"stopped feeding at line {line}: " ++ Pipe.closedText)], .ok delivery) := by
          simp only [deliver, if_pos running, planned, sending, stopped]
        rw [short]
        refine ⟨sent, nextLine, false, by simpa [endIf] using result, isPrefix, ?_, fun _ _ => rfl, bounds, numbers,
          RunReport.onlyLogs_ofLogs _⟩
        rintro other same
        cases same
        exact ⟨count, whole, by simp⟩
      | none =>
        obtain ⟨ended, last, quiet⟩ := after.sendEnd_spec
        have sentEnd : run.deliver code = (after.sendEnd.1, after.sendEnd.2, .ok delivery) := by
          simp only [deliver, if_pos running, planned, sending, stopped]
        rw [sentEnd]
        refine ⟨sent, nextLine, ended, ?_, isPrefix, ?_, nofun, bounds, numbers, quiet⟩
        · rw [last, show after = _ from result, afterSending_afterSending, nextLine_afterSending]
        · rintro other same
          cases same
          exact ⟨count, whole, fun _ => stopped⟩

/-- Noting that feeding is over only moves a running run on, and only if all lines were accepted. -/
theorem conclude_fst (run : Run) (delivery : Delivery) :
    (run.conclude delivery).1 =
      if delivery.stoppedAt = none ∧ run.state = .running then { run with state := .draining }
      else run := by
  cases stopped : delivery.stoppedAt with
  | some line => simp [conclude, stopped]
  | none =>
    by_cases running : run.state = .running
    · simp [conclude, goFrom, stopped, running]
    · simp [conclude, goFrom, stopped, running]

theorem onlyLogs_conclude (run : Run) (delivery : Delivery) :
    (run.conclude delivery).2.OnlyLogs := by
  cases stopped : delivery.stoppedAt with
  | some line => simp [conclude, stopped]
  | none =>
    have moved : (run.goFrom .running .draining).2.OnlyLogs := by
      rw [goFrom]
      split <;> simp
    simpa [conclude, stopped] using moved.append (RunReport.onlyLogs_ofLogs _)

/-- A document that is delivered is fed once that is noted. -/
theorem feed_of_delivered {run after : Run} {code : List Char} {report : RunReport} {delivery : Delivery}
    (delivered : run.deliver code = (after, report, .ok delivery)) :
    run.feed code = ((after.conclude delivery).1, report ++ (after.conclude delivery).2, .ok delivery.count) := by
  rw [feed, delivered]

/-- A delivery that breaks off breaks the feeding off. -/
theorem feed_of_broken {run after : Run} {code : List Char} {report : RunReport} {error : RunError}
    (broken : run.deliver code = (after, report, .error error)) : run.feed code = (after, report, .error error) := by
  rw [feed, broken]

/-- Only a numeral breaks off the feeding of a running run. -/
theorem exists_numeral_of_feed {run : Run} {code : List Char} {error : RunError} (running : run.state = .running)
    (failed : (run.feed code).2.2 = .error error) : ∃ fault, error = .numeral fault := by
  cases planned : planLines? code run.nextLine with
  | error fault =>
    rw [feed_of_broken (deliver_of_unplanned running planned)] at failed
    exact ⟨fault, (Except.error.inj failed).symm⟩
  | ok lines =>
    rcases sending : run.sendLines lines with ⟨after, fault | delivery⟩
    · have broken : run.deliver code = (after, .none, .error (.numeral fault)) := by
        simp only [deliver, if_pos running, planned, sending]
      rw [feed_of_broken broken] at failed
      exact ⟨fault, (Except.error.inj failed).symm⟩
    · obtain ⟨last, report, delivered⟩ : ∃ last report, run.deliver code = (last, report, .ok delivery) := by
        simp only [deliver, if_pos running, planned, sending]
        cases delivery.stoppedAt <;> exact ⟨_, _, rfl⟩
      rw [feed_of_delivered delivered] at failed
      cases failed

/-- Feeding a running run sends the first of the document's lines in order; it goes on to draining
only if it sent all of them, and then it does unless it breaks off; only then the end of the input may be sent. -/
theorem feed_spec (run : Run) (code : List Char) (running : run.state = .running) :
    ∃ (sent : List LogicalLine) (nextLine : Int) (ended : Bool) (state : RunState),
      (run.feed code).1 =
        { run.afterSending (sent.map LogicalLine.command ++ endIf ended) nextLine with state } ∧
      sent <+: planLines code run.nextLine ∧
      (state = .running ∨ state = .draining) ∧
      (state = .draining → sent = planLines code run.nextLine) ∧
      (ended = true → state = .draining) ∧
      run.nextLine ≤ nextLine ∧ AscendWithin run.nextLine nextLine (sent.map (·.line)) ∧
      (run.feed code).2.1.OnlyLogs := by
  obtain ⟨sent, nextLine, ended, result, isPrefix, complete, unended, bounds, numbers, quiet⟩ :=
    run.deliver_spec code running
  rcases delivered : run.deliver code with ⟨after, report, error | delivery⟩
  · rw [delivered] at result quiet unended
    rw [feed_of_broken delivered]
    refine ⟨sent, nextLine, ended, .running, ?_, isPrefix, .inl rfl, nofun, ?_, bounds, numbers, quiet⟩
    · rw [← running]
      exact result
    · exact fun isEnd => absurd isEnd (by simp [unended error rfl])
  · rw [delivered] at result quiet complete
    obtain ⟨-, whole, closed⟩ := complete delivery rfl
    have moved := conclude_fst after delivery
    have report := quiet.append (onlyLogs_conclude after delivery)
    rw [show after = _ from result, state_afterSending] at moved
    rw [feed_of_delivered delivered]
    -- Feeding is over exactly if no line was left over.
    by_cases all : delivery.stoppedAt = none
    · rw [if_pos ⟨all, running⟩] at moved
      refine ⟨sent, nextLine, ended, .draining, ?_, isPrefix, .inr rfl, fun _ => whole.mp all, fun _ => rfl, bounds,
        numbers, report⟩
      rw [show after = _ from result, moved]
    · rw [if_neg fun both => all both.1] at moved
      refine ⟨sent, nextLine, ended, .running, ?_, isPrefix, .inl rfl, nofun, fun past => absurd (closed past) all,
        bounds, numbers, report⟩
      rw [show after = _ from result, moved, ← running]
      rfl

/-! ## Steps -/

end Run

/-- What may happen to a run. -/
inductive RunStep where
  /-- The host is started. -/
  | start
  /-- A text is fed. -/
  | feed (code : List Char)
  /-- The host says something. -/
  | message (message : Message)
  /-- The host is gone, with a code, its last lines, and whether it was asked to go. -/
  | exit (code : Option Int) (troubleText : String) (requested : Bool)
  /-- The run is ended. -/
  | terminate
  /-- The pipe accepts so many commands in all from now on; any number if none is given. -/
  | transport (capacity : Option Nat)
  deriving Repr

namespace Run

/-- The run after a step, and what came of it. An operation that is refused leaves the run as it is.
-/
def step (run : Run) : RunStep → Run × RunReport
  | .start => (run.start.1, run.start.2.1)
  | .feed code => ((run.feed code).1, (run.feed code).2.1)
  | .message message => (run.receive message).toOption.getD (run, .none)
  | .exit code troubleText requested =>
    { run with pipe := { run.pipe with troubleText } }.hostExited code requested
  | .terminate => run.terminate
  | .transport capacity => ({ run with pipe := { run.pipe with capacity } }, .none)

/-- The run after some steps in order, and what came of them. -/
def steps (run : Run) : List RunStep → Run × RunReport
  | [] => (run, .none)
  | step :: others =>
    (((run.step step).1.steps others).1, (run.step step).2 ++ ((run.step step).1.steps others).2)

@[simp] theorem steps_nil (run : Run) : run.steps [] = (run, .none) := rfl

theorem steps_cons (run : Run) (step : RunStep) (others : List RunStep) :
    run.steps (step :: others) =
      (((run.step step).1.steps others).1, (run.step step).2 ++ ((run.step step).1.steps others).2) := rfl

/-! ## What a step can do -/

@[simp] theorem events_emit (run : Run) (event : Event) :
    (run.emit event).events = if run.state = .terminated then [] else [event] := by
  rw [emit]
  split <;> rfl

@[simp] theorem failures_emit (run : Run) (event : Event) : (run.emit event).failures = [] := by
  rw [emit]
  split <;> rfl

/-- What a run makes of an event before it passes it on. -/
def passedOn (run : Run) (event : Event) : List Event :=
  if run.classifies then event.classify.1.toList else [event]

/-- An event is passed on, classified if the run classifies, unless the run is over. -/
theorem events_report (run : Run) (event : Event) :
    (run.report event).events = if run.state = .terminated then [] else run.passedOn event := by
  rw [report, passedOn]
  by_cases classifies : run.classifies = true
  · rw [if_pos classifies, if_pos classifies]
    rcases event.classify with ⟨_ | classified, logs⟩
    · simp [RunReport.ofLogs]
    · simp [RunReport.ofLogs]
  · rw [if_neg classifies, if_neg classifies, events_emit]

theorem failures_report (run : Run) (event : Event) : (run.report event).failures = [] := by
  rw [report]
  split
  · rcases event.classify with ⟨_ | classified, logs⟩
    · rfl
    · simp [RunReport.ofLogs]
  · exact failures_emit run event

/-- What taking a message comes to: the host has nothing more to report, or nothing but log records,
or an event. -/
theorem receive_cases {run after : Run} {message : Message} {report : RunReport}
    (taken : run.receive message = .ok (after, report)) :
    (after = { run with drained := true } ∧ report = .none) ∨ (after = run ∧ report.OnlyLogs) ∨
      (after = run ∧
        ∃ event, message.toEvent run.id = .ok (some event) ∧ report = run.report event) := by
  rw [receive] at taken
  split at taken
  · left
    simpa [eq_comm] using taken
  · split at taken
    · right; left
      simp only [Except.ok.injEq, Prod.mk.injEq] at taken
      exact ⟨taken.1.symm, taken.2 ▸ RunReport.onlyLogs_none⟩
    · next event isEvent =>
      right; right
      split at taken
      · simp only [Except.ok.injEq, Prod.mk.injEq] at taken
        exact ⟨taken.1.symm, event, isEvent, taken.2.symm⟩
      · simp at taken
    · split at taken
      · right; left
        simp only [Except.ok.injEq, Prod.mk.injEq] at taken
        exact ⟨taken.1.symm, taken.2 ▸ RunReport.onlyLogs_ofLogs _⟩
      · simp at taken

/-- A message at most notes that the host has nothing more to report. Only a run that is not over
passes on an event, and no message is a failure. -/
theorem step_message (run : Run) (message : Message) :
    (∃ drained, (run.step (.message message)).1 = { run with drained } ∧
        (run.drained = true → drained = true)) ∧
      (run.state = .terminated → (run.step (.message message)).2.events = []) ∧
      (run.step (.message message)).2.failures = [] := by
  cases taken : run.receive message with
  | error fault =>
    simp only [step, taken, Except.toOption, Option.getD]
    exact ⟨⟨run.drained, rfl, fun already => already⟩, fun _ => rfl, rfl⟩
  | ok result =>
    obtain ⟨after, report⟩ := result
    simp only [step, taken, Except.toOption, Option.getD]
    rcases receive_cases taken with ⟨rfl, rfl⟩ | ⟨rfl, quiet⟩ | ⟨rfl, event, -, rfl⟩
    · exact ⟨⟨true, rfl, fun _ => rfl⟩, fun _ => rfl, rfl⟩
    · exact ⟨⟨after.drained, rfl, fun already => already⟩, fun _ => quiet.1, quiet.2⟩
    · refine ⟨⟨after.drained, rfl, fun already => already⟩, fun past => ?_, failures_report after event⟩
      rw [events_report, if_pos past]

/-- Starting a run that is not idle is refused and changes nothing. -/
theorem start_of_ne_idle {run : Run} (started : run.state ≠ .idle) :
    run.start = (run, .none, .error (.cannotStart run.state)) := by
  rw [start, spawn, if_neg started]

/-- An idle run is started, or it is over. -/
theorem start_of_idle {run : Run} (idle : run.state = .idle) :
    run.start.2.1.OnlyLogs ∧
      (run.start.1 = { run with state := .running } ∨
        run.start.1 = { run with state := .terminated, drained := true }) := by
  cases fault : run.pipe.startFault with
  | some reason => simp [start, spawn, idle, fault]
  | none => simp [start, spawn, enter, idle, fault, goFrom]

/-- The host of a fresh run is spawned, if it can be. -/
theorem spawn_fresh (id : Int) (classifies : Bool) {pipe : Pipe} (fine : pipe.startFault = none) :
    (fresh id classifies pipe).spawn = (fresh id classifies pipe, .ok ()) := by
  simp [spawn, fresh, fine]

/-- A fresh run is over, if its host cannot be spawned. -/
theorem spawn_fresh_of_fault (id : Int) (classifies : Bool) {pipe : Pipe} {reason : String}
    (fault : pipe.startFault = some reason) :
    (fresh id classifies pipe).spawn =
      ({ fresh id classifies pipe with state := .terminated, drained := true }, .error (.notStarted reason)) := by
  simp [spawn, fresh, fault]

/-- A fresh run is started, if its host can be started. -/
theorem start_fresh (id : Int) (classifies : Bool) {pipe : Pipe} (fine : pipe.startFault = none) :
    (fresh id classifies pipe).start =
      ({ fresh id classifies pipe with state := .running },
        .ofLogs [(fresh id classifies pipe).log .debug "idle -> running"], .ok ()) := by
  simp [start, spawn, enter, fresh, goFrom, fine, RunState.name]

/-- A fresh run is over, if its host cannot be started. -/
theorem start_fresh_of_fault (id : Int) (classifies : Bool) {pipe : Pipe} {reason : String}
    (fault : pipe.startFault = some reason) :
    (fresh id classifies pipe).start =
      ({ fresh id classifies pipe with state := .terminated, drained := true }, .none,
        .error (.notStarted reason)) := by
  simp [start, spawn, fresh, fault]

/-- Feeding a run that is not running is refused and changes nothing. -/
theorem feed_of_ne_running {run : Run} (code : List Char) (other : run.state ≠ .running) :
    run.feed code = (run, .none, .error (.cannotFeed run.state)) :=
  feed_of_broken (deliver_of_ne_running code other)

theorem onlyLogs_start (run : Run) : run.start.2.1.OnlyLogs := by
  by_cases idle : run.state = .idle
  · exact (start_of_idle idle).1
  · rw [start_of_ne_idle idle]
    exact RunReport.onlyLogs_none

theorem onlyLogs_feed (run : Run) (code : List Char) : (run.feed code).2.1.OnlyLogs := by
  by_cases running : run.state = .running
  · obtain ⟨-, -, -, -, -, -, -, -, -, -, -, quiet⟩ := run.feed_spec code running
    exact quiet
  · rw [feed_of_ne_running code running]
    exact RunReport.onlyLogs_none

/-- Whether the host is up, by the state of the run. -/
theorem isLive_iff (run : Run) : run.isLive = true ↔ run.state = .running ∨ run.state = .draining := by
  simp [isLive]

/-- A host that is gone ends the run. -/
theorem hostExited_fst (run : Run) (code : Option Int) (requested : Bool) :
    (run.hostExited code requested).1 = { run with state := .terminated, drained := true } := by
  rw [hostExited]
  split <;> rfl

theorem events_hostExited (run : Run) (code : Option Int) (requested : Bool) :
    (run.hostExited code requested).2.events = [] := by
  rw [hostExited]
  split <;> rfl

/-- A failure is passed on for a host that was up and that nobody asked to go. -/
theorem failures_hostExited (run : Run) (code : Option Int) (requested : Bool) :
    (run.hostExited code requested).2.failures =
      if requested = false ∧ run.isLive = true ∧ run.passesFailures = true then
        [Failure.ofExit code run.pipe.troubleText]
      else [] := by
  cases requested <;> cases live : run.isLive <;> cases passes : run.passesFailures <;>
    simp [hostExited, live, passes, RunReport.none]

theorem onlyLogs_terminate (run : Run) : run.terminate.2.OnlyLogs := by
  rw [terminate]
  split <;> simp

/-- What a step may make of a run. Every invariant of a run is kept by each of these moves. -/
inductive Move (run : Run) : Run → Prop where
  /-- The step is refused. -/
  | stay : Move run run
  /-- The host is started. -/
  | start (idle : run.state = .idle) : Move run { run with state := .running }
  /-- The host could not be started. -/
  | fault (idle : run.state = .idle) : Move run { run with state := .terminated, drained := true }
  /-- Some lines are fed; the end of the input may follow if they are all, and then feeding is over.
  -/
  | feed (sent : List LogicalLine) (nextLine : Int) (ended : Bool) (state : RunState)
      (running : run.state = .running) (fed : state = .running ∨ state = .draining)
      (last : ended = true → state = .draining) (bounds : run.nextLine ≤ nextLine)
      (numbers : AscendWithin run.nextLine nextLine (sent.map (·.line))) :
      Move run { run.afterSending (sent.map LogicalLine.command ++ endIf ended) nextLine with state }
  /-- The host may have said that it has nothing more to report. -/
  | hear (drained : Bool) (kept : run.drained = true → drained = true) : Move run { run with drained }
  /-- The host is gone or told to end. -/
  | finish (pipe : Pipe) (same : pipe.accepted = run.pipe.accepted) :
      Move run { run with state := .terminated, drained := true, pipe }
  /-- The host accepts so many commands from now on. -/
  | limit (capacity : Option Nat) : Move run { run with pipe := { run.pipe with capacity } }

/-- Every step is one of the moves. -/
theorem move_step (run : Run) (step : RunStep) : run.Move (run.step step).1 := by
  cases step with
  | start =>
    by_cases idle : run.state = .idle
    · rcases (start_of_idle idle).2 with started | failed
      · rw [Run.step, started]
        exact .start idle
      · rw [Run.step, failed]
        exact .fault idle
    · rw [Run.step, start_of_ne_idle idle]
      exact .stay
  | feed code =>
    by_cases running : run.state = .running
    · obtain ⟨sent, nextLine, ended, state, after, -, fed, -, last, bounds, numbers, -⟩ :=
        run.feed_spec code running
      rw [Run.step, after]
      exact .feed sent nextLine ended state running fed last bounds numbers
    · rw [Run.step, feed_of_ne_running code running]
      exact .stay
  | message message =>
    obtain ⟨⟨drained, after, kept⟩, -⟩ := run.step_message message
    rw [after]
    exact .hear drained kept
  | exit code troubleText requested =>
    rw [Run.step, hostExited_fst]
    exact .finish { run.pipe with troubleText } rfl
  | terminate => exact .finish run.pipe.terminate rfl
  | transport capacity => exact .limit capacity

/-! ## The state only goes forward -/

/-- No move takes a run back to an earlier state. -/
theorem Move.rank_le {run later : Run} (move : run.Move later) :
    run.state.rank ≤ later.state.rank := by
  have last : run.state.rank ≤ RunState.terminated.rank := by
    cases run.state <;> decide
  cases move with
  | stay | hear | limit => exact Nat.le_refl _
  | start idle =>
    rw [idle]
    exact Nat.zero_le _
  | fault | finish => exact last
  | feed _ _ _ state running fed =>
    rw [running]
    show RunState.running.rank ≤ state.rank
    rcases fed with rfl | rfl <;> decide

/-- A run that is over stays over. -/
theorem step_of_terminated {run : Run} (past : run.state = .terminated) (step : RunStep) :
    (run.step step).1.state = .terminated := by
  have forward := (run.move_step step).rank_le
  rw [past] at forward
  cases state : (run.step step).1.state with
  | terminated => rfl
  | idle | running | draining => simp [state, RunState.rank] at forward

/-! ## The commands -/

/-- Evaluations of ascending lines below a bound, then the end of the input if it is over. -/
def IsFeed (bound : Int) (ended : Bool) (commands : List Command) : Prop :=
  ∃ evals : List (Int × String),
    commands = evals.map (fun eval => Command.eval eval.1 eval.2) ++ endIf ended ∧
      AscendWithin 1 bound (evals.map Prod.fst)

/-- What ties the commands that a host accepted to the number of the next line and to the state. -/
structure Orderly (run : Run) : Prop where
  /-- The host of a run that is over has nothing more to report. -/
  drained : run.state = .terminated → run.drained = true
  /-- Lines are numbered from one on. -/
  one_le : 1 ≤ run.nextLine
  /-- The commands are a feed, and the input is over only after feeding. -/
  feed : ∃ ended, IsFeed run.nextLine ended run.pipe.accepted ∧
    (ended = true → run.state = .draining ∨ run.state = .terminated)

/-- A feed goes on with logical lines from its bound on and perhaps the end of the input. -/
theorem IsFeed.append {bound next : Int} {ended : Bool} {commands : List Command}
    {sent : List LogicalLine} (feed : IsFeed bound false commands) (first : 1 ≤ bound)
    (bounds : bound ≤ next) (numbers : AscendWithin bound next (sent.map (·.line))) :
    IsFeed next ended (commands ++ (sent.map LogicalLine.command ++ endIf ended)) := by
  obtain ⟨evals, rfl, ascend⟩ := feed
  refine ⟨evals ++ sent.map fun logical => (logical.line, String.ofList logical.code), ?_, ?_⟩
  · simp [endIf, Function.comp_def, LogicalLine.command]
  · have fed := ascend.append numbers first bounds
    simpa [Function.comp_def] using fed

/-- A run that is not started is orderly. -/
theorem orderly_fresh (id : Int) (classifies receiverFails passesFailures : Bool)
    (startFault : Option String) (capacity : Option Nat) :
    ({ Run.fresh id classifies (.fresh startFault capacity) with
      receiverFails, passesFailures } : Run).Orderly := by
  refine ⟨?_, Int.le_refl 1, false, ⟨[], rfl, .nil 1 1⟩, ?_⟩
  · simp [Run.fresh]
  · simp

/-- Every move keeps a run orderly. -/
theorem Orderly.move {run later : Run} (orderly : run.Orderly) (move : run.Move later) :
    later.Orderly := by
  obtain ⟨drained, first, ended, commands, past⟩ := orderly
  -- Before feeding, the input is not over, because it would be only in a later state.
  have unended {state : RunState} (early : state = .idle ∨ state = .running)
      (isState : run.state = state) : ended = false := by
    cases ended with
    | false => rfl
    | true => rcases early with rfl | rfl <;> simp [isState] at past
  cases move with
  | stay | limit => exact ⟨drained, first, ended, commands, past⟩
  | hear now kept => exact ⟨fun state => kept (drained state), first, ended, commands, past⟩
  | start idle =>
    obtain rfl := unended (.inl rfl) idle
    exact ⟨by simp, first, false, commands, by simp⟩
  | fault idle =>
    obtain rfl := unended (.inl rfl) idle
    exact ⟨by simp, first, false, commands, by simp⟩
  | finish pipe same =>
    refine ⟨fun _ => rfl, first, ended, ?_, fun _ => .inr rfl⟩
    show IsFeed run.nextLine ended pipe.accepted
    rw [same]
    exact commands
  | feed sent nextLine closed state running fed last bounds numbers =>
    obtain rfl := unended (.inr rfl) running
    refine ⟨?_, Int.le_trans first bounds, closed, commands.append first bounds numbers, ?_⟩
    · rcases fed with rfl | rfl <;> simp
    · exact fun sentEnd => .inl (last sentEnd)

/-- Every history keeps a run orderly. -/
theorem Orderly.steps {run : Run} (orderly : run.Orderly) (history : List RunStep) :
    (run.steps history).1.Orderly := by
  induction history generalizing run with
  | nil => exact orderly
  | cons step history ih =>
    rw [steps_cons]
    exact ih (orderly.move (run.move_step step))

/-- What a host accepted is never taken back. -/
theorem Move.accepted_le {run later : Run} (move : run.Move later) :
    run.pipe.accepted <+: later.pipe.accepted := by
  cases move with
  | stay | start | fault | hear | limit => exact List.prefix_rfl
  | finish pipe same => exact same ▸ List.prefix_rfl
  | feed => exact List.prefix_append _ _

/-! ## Events and failures -/

/-- Only a message brings events, and only to a run that is not over. -/
theorem events_step_of_terminated (run : Run) (step : RunStep)
    (past : run.state = .terminated ∨ (run.step step).1.state = .terminated) :
    (run.step step).2.events = [] := by
  cases step with
  | start => exact run.onlyLogs_start.1
  | feed code => exact (run.onlyLogs_feed code).1
  | message message =>
    obtain ⟨⟨drained, after, -⟩, silent, -⟩ := run.step_message message
    rw [after] at past
    exact silent (past.elim (fun before => before) (fun now => now))
  | exit code troubleText requested => exact events_hostExited _ code requested
  | terminate => exact run.onlyLogs_terminate.1
  | transport capacity => rfl

/-- A step brings a failure exactly if the host was up and is gone without being asked, and failures
are passed on. -/
theorem failures_step_ne_nil_iff (run : Run) (step : RunStep) :
    (run.step step).2.failures ≠ [] ↔
      run.passesFailures = true ∧ (run.state = .running ∨ run.state = .draining) ∧
        ∃ code troubleText, step = .exit code troubleText false := by
  have none {other : RunStep} (quiet : (run.step other).2.failures = [])
      (different : ∀ code troubleText, other ≠ .exit code troubleText false) :
      (run.step other).2.failures ≠ [] ↔
        run.passesFailures = true ∧ (run.state = .running ∨ run.state = .draining) ∧
          ∃ code troubleText, other = .exit code troubleText false := by
    refine ⟨fun failed => absurd quiet failed, ?_⟩
    rintro ⟨-, -, code, troubleText, same⟩
    exact absurd same (different code troubleText)
  cases step with
  | start => exact none run.onlyLogs_start.2 (by simp)
  | feed code => exact none (run.onlyLogs_feed code).2 (by simp)
  | message message => exact none (run.step_message message).2.2 (by simp)
  | terminate => exact none run.onlyLogs_terminate.2 (by simp)
  | transport capacity => exact none rfl (by simp)
  | exit code troubleText requested =>
    have live := isLive_iff { run with pipe := { run.pipe with troubleText } }
    simp only [Run.step, failures_hostExited, live]
    cases requested with
    | true => simp
    | false =>
      split
      · next failed => exact iff_of_true (by simp) ⟨failed.2.2, failed.2.1, code, troubleText, rfl⟩
      · next fine => exact iff_of_false (by simp) fun ⟨passes, up, _⟩ => fine ⟨rfl, up, passes⟩

theorem length_failures_step_le_one (run : Run) (step : RunStep) :
    (run.step step).2.failures.length ≤ 1 := by
  cases step with
  | start => simp [Run.step, run.onlyLogs_start.2]
  | feed code => simp [Run.step, (run.onlyLogs_feed code).2]
  | message message => simp [(run.step_message message).2.2]
  | terminate => simp [Run.step, run.onlyLogs_terminate.2]
  | transport capacity => simp [Run.step, RunReport.none]
  | exit code troubleText requested =>
    simp only [Run.step, failures_hostExited]
    split <;> simp

/-- A run that is over has no failures. -/
theorem failures_steps_of_terminated {run : Run} (past : run.state = .terminated)
    (history : List RunStep) : (run.steps history).2.failures = [] := by
  induction history generalizing run with
  | nil => rfl
  | cons step history ih =>
    have first : (run.step step).2.failures = [] := by
      cases failures : (run.step step).2.failures with
      | nil => rfl
      | cons failure others =>
        have up := ((failures_step_ne_nil_iff run step).mp (by simp [failures])).2.1
        simp [past] at up
    rw [steps_cons, RunReport.failures_append, first, ih (step_of_terminated past step), List.append_nil]

/-- A run has at most one failure: the failing step ends it. -/
theorem length_failures_steps_le_one (run : Run) (history : List RunStep) :
    (run.steps history).2.failures.length ≤ 1 := by
  induction history generalizing run with
  | nil => exact Nat.zero_le 1
  | cons step history ih =>
    rw [steps_cons, RunReport.failures_append, List.length_append]
    by_cases failed : (run.step step).2.failures = []
    · simpa [failed] using ih (run.step step).1
    · obtain ⟨-, -, code, troubleText, rfl⟩ := (failures_step_ne_nil_iff run step).mp failed
      have past : (run.step (.exit code troubleText false)).1.state = .terminated := by
        simp only [Run.step, hostExited_fst]
      -- The failing step ends the run, and nothing can fail after it.
      rw [failures_steps_of_terminated past history]
      exact run.length_failures_step_le_one _

/-- No move changes whether failures are passed on. -/
theorem Move.passesFailures {run later : Run} (move : run.Move later) :
    later.passesFailures = run.passesFailures := by
  cases move with
  | stay | start | fault | feed | hear | finish | limit => rfl

theorem passesFailures_steps (run : Run) (history : List RunStep) :
    (run.steps history).1.passesFailures = run.passesFailures := by
  induction history generalizing run with
  | nil => rfl
  | cons step history ih => rw [steps_cons, ih, (run.move_step step).passesFailures]

end Run

/-! ## The protocol -/

/-- **The protocol of a run**, after every history and for every step that may follow: the state
only goes forward and a run that is over stays over; the host of a run that is over has nothing more
to report; what the host accepted is a feed that only grows, and its input is over only after
feeding; no event is passed on by a run that is over; a failure is passed on exactly if the host was
up and is gone without being asked, and at most once in all; and starting a run twice or feeding one
that is not running is refused and changes nothing. -/
theorem run_keeps_protocol (id : Int) (classifies receiverFails passesFailures : Bool)
    (startFault : Option String) (capacity : Option Nat) (history : List RunStep) :
    let first : Run := { Run.fresh id classifies (.fresh startFault capacity) with
      receiverFails, passesFailures }
    let run := (first.steps history).1
    (∀ step, run.state.rank ≤ (run.step step).1.state.rank ∧
      (run.state = .terminated → (run.step step).1.state = .terminated)) ∧
    (run.state = .terminated → run.drained = true) ∧
    (∃ (evals : List (Int × String)) (ended : Bool),
      run.pipe.accepted = evals.map (fun eval => Command.eval eval.1 eval.2) ++
        (if ended then [.endOfInput] else []) ∧
      (evals.map Prod.fst).Pairwise (· < ·) ∧
      (ended = true → run.state = .draining ∨ run.state = .terminated)) ∧
    (∀ step, run.pipe.accepted <+: (run.step step).1.pipe.accepted) ∧
    (∀ step, run.state = .terminated ∨ (run.step step).1.state = .terminated →
      (run.step step).2.events = []) ∧
    (∀ step, (run.step step).2.failures ≠ [] ↔
      passesFailures = true ∧ (run.state = .running ∨ run.state = .draining) ∧
        ∃ code troubleText, step = .exit code troubleText false) ∧
    (first.steps history).2.failures.length ≤ 1 ∧
    (run.state ≠ .idle → run.start = (run, .none, .error (.cannotStart run.state))) ∧
    (run.state ≠ .running →
      ∀ code, run.feed code = (run, .none, .error (.cannotFeed run.state))) := by
  intro first run
  have orderly : run.Orderly :=
    (Run.orderly_fresh id classifies receiverFails passesFailures startFault capacity).steps history
  have passes : run.passesFailures = passesFailures := first.passesFailures_steps history
  obtain ⟨ended, ⟨evals, commands, ascend⟩, past⟩ := orderly.feed
  refine ⟨?_, orderly.drained, ⟨evals, ended, commands, ascend.pairwise, past⟩, ?_,
    run.events_step_of_terminated, ?_, first.length_failures_steps_le_one history,
    Run.start_of_ne_idle, fun other code => Run.feed_of_ne_running code other⟩
  · intro step
    exact ⟨(run.move_step step).rank_le, fun terminated => Run.step_of_terminated terminated step⟩
  · exact fun step => (run.move_step step).accepted_le
  · intro step
    rw [← passes]
    exact run.failures_step_ne_nil_iff step

end Marginalia
