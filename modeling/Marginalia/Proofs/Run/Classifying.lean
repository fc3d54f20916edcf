import Marginalia.Child
import Marginalia.Margin
import Marginalia.Run
import Mathlib.Data.List.Forall2

/-! # Classifying early or late
Printed text is classified by the run before it is passed on, or by the margin when it gets there. A reader of
the margin cannot tell which (`classifying_early_or_late`): what classification leaves alone is not classified
again, so with each message both show the same annotations, publish the same and report the same. Text that cannot
be classified is lost either way: in the run before it is passed on, or in the margin, which leaves it out. -/

namespace Marginalia

/-! ## Messages that are accepted -/

namespace Message

/-- A message that is valid has a type, and a line if messages of its type have one. -/
theorem of_validate {message valid : Message} (checked : message.validate = .ok valid) :
    valid = message ∧
      ∃ type, message.type? = some type ∧ (type.hasLine = true → isLine (message.get "line") = true) := by
  rw [validate] at checked
  split at checked
  · rename_i type known
    split at checked
    · cases checked
    · rename_i lined
      refine ⟨(Except.ok.inj checked).symm, type, known, fun hasLine => ?_⟩
      simpa [hasLine] using lined
  · cases checked
  · cases checked
  · cases checked

theorem of_decode {line : List Char} {message : Message} (accepted : decode line = .ok message) :
    ∃ type, message.type? = some type ∧ (type.hasLine = true → isLine (message.get "line") = true) := by
  rw [decode] at accepted
  split at accepted
  · cases accepted
  · obtain ⟨rfl, valid⟩ := of_validate accepted
    exact valid
  · cases accepted

/-- A message that names a line gets its payload onto it. -/
theorem eventOf_of_isLine {message : Message} (lined : isLine (message.get "line") = true) (type : MessageType)
    (runId : Int) (payload : Payload) : ∃ event, message.eventOf type runId payload = .ok (some event) := by
  rw [eventOf]
  cases named : message.get "line" with
  | int line =>
    rw [named] at lined
    obtain ⟨line, rfl⟩ := Int.eq_ofNat_of_zero_le (of_decide_eq_true lined)
    exact ⟨⟨line, payload, runId⟩, rfl⟩
  | null | bool | real | str | list | object => rw [named] at lined; cases lined

/-- An accepted message reports an event, or nothing, or is malformed. -/
theorem toEvent_of_decode {line : List Char} {message : Message} (accepted : decode line = .ok message)
    (runId : Int) : (∃ event?, message.toEvent runId = .ok event?) ∨
      ∃ fault, message.toEvent runId = .error fault ∧ fault.isMalformed = true := by
  obtain ⟨type, known, lined⟩ := of_decode accepted
  rw [toEvent, known]
  cases type with
  | ready | drained => exact .inl ⟨none, rfl⟩
  | output =>
    obtain ⟨event, same⟩ :=
      eventOf_of_isLine (lined rfl) .output runId (.raw (textMember message.members "text"))
    exact .inl ⟨some event, same⟩
  | result =>
    cases read : readValue (message.get "value") with
    | ok value =>
      obtain ⟨event, same⟩ := eventOf_of_isLine (lined rfl) .result runId (.expression value)
      exact .inl ⟨some event, by rw [← same]; rfl⟩
    | error fault =>
      refine .inr ⟨fault, rfl, ?_⟩
      unfold readValue at read
      split at read
      · cases read
      · rw [← Except.error.inj read]; rfl
  | error =>
    cases read : readError (message.get "error") with
    | ok descriptor =>
      obtain ⟨event, same⟩ := eventOf_of_isLine (lined rfl) .error runId (.error descriptor)
      exact .inl ⟨some event, by rw [← same]; rfl⟩
    | error fault =>
      refine .inr ⟨fault, rfl, ?_⟩
      unfold readError at read
      split at read
      · cases read
      · rw [← Except.error.inj read]; rfl

end Message

/-! ## What is shown with a message -/

/-- What a reader of the margin gets to see with a message. -/
structure Showing where
  /-- The annotations after it. -/
  annotations : List Annotation
  /-- What the listeners of the margin received. -/
  published : List (Listener × List Annotation)
  /-- The log records. -/
  logs : List Log.Record

namespace Showing

/-- The records of the normal course of events. -/
def infos (showing : Showing) : List Log.Record := showing.logs.filter (·.level == .info)

/-- Those of them that the margin makes: one for each text that is shown. -/
def marginInfos (showing : Showing) : List Log.Record := showing.infos.filter (·.component == .table)

/-- Whether two showings are alike to a reader. Details of the work are not compared; where the run is over,
what the classification reports is not, either. -/
structure Alike (live : Prop) (early late : Showing) : Prop where
  /-- The annotations are the same. -/
  annotations : early.annotations = late.annotations
  /-- The same is published. -/
  published : early.published = late.published
  /-- The margin reports the same. -/
  marginInfos : early.marginInfos = late.marginInfos
  /-- The same is reported, if the run is not over. -/
  infos : live → early.infos = late.infos

end Showing

/-! ## Events that are classified -/

/-- An event that is classified is not classified again. -/
theorem Event.classify?_of_isClassified {event : Event} (classified : event.isClassified = true) :
    event.classify? = .ok (some event, []) := by
  unfold classify?
  split
  · rename_i text raw
    rw [isClassified, raw] at classified
    cases classified
  · rfl

/-- What the classification reports, it reports itself. -/
theorem Event.component_of_classify? {event : Event} {found : Option Event × List Log.Record}
    (answered : event.classify? = .ok found) : ∀ record ∈ found.2, record.component = .classification := by
  unfold classify? at answered
  split at answered
  · next text raw =>
    rcases read : classifyText event.line text.toList with fault | (_ | classified)
    · rw [read] at answered
      cases answered
    · rw [read, Except.map] at answered
      obtain rfl := Except.ok.inj answered
      dsimp only
      split
      · exact nofun
      · exact fun record member => List.mem_singleton.mp member ▸ rfl
    · rw [read, Except.map] at answered
      obtain rfl := Except.ok.inj answered
      exact nofun
  · obtain rfl := Except.ok.inj answered
    exact nofun

namespace Margin

/-- Apply some events in order. -/
def showAll (margin : Margin) : List Event → Margin × MarginReport
  | [] => (margin, .none)
  | event :: events =>
    let (margin, first) := margin.update event
    let (margin, others) := margin.showAll events
    (margin, ⟨first.published ++ others.published, first.logs ++ others.logs⟩)

/-- An event that is classified beforehand changes the margin alike; only the reports of the classification are
made elsewhere. -/
theorem update_of_classify? {event classified : Event} {logs : List Log.Record}
    (answered : event.classify? = .ok (some classified, logs)) (margin : Margin) :
    margin.update event = ((margin.update classified).1,
      ⟨(margin.update classified).2.published, logs ++ (margin.update classified).2.logs⟩) := by
  have again :=
    Event.classify?_of_isClassified (Event.isClassified_of_classify (Event.classify_of_ok answered))
  rw [update, update, answered, again]
  rfl

@[simp] theorem showAll_nil (margin : Margin) : margin.showAll [] = (margin, .none) := rfl

@[simp] theorem showAll_singleton (margin : Margin) (event : Event) :
    margin.showAll [event] = margin.update event := by
  simp [showAll, MarginReport.none]

end Margin

namespace Run

/-- What is reported of events that the margin cannot classify: it fails on them, and the run drops them. -/
def dropLogs (run : Run) (events : List Event) : List Log.Record :=
  (events.filter (·.fault?.isSome)).map fun _ => run.log .error "event sink failed, event dropped"

/-- What is shown when a run reports and its events go to a margin. -/
def showing (run : Run) (margin : Margin) (report : RunReport) : Showing :=
  let shown := margin.showAll report.events
  ⟨shown.1.annotations, shown.2.published, report.logs ++ (run.dropLogs report.events ++ shown.2.logs)⟩

/-- What a message brings about where the events of the run go to a margin: the run and the margin after it, and
what is shown. A message on which the run fails is lost. -/
def shown (run : Run) (margin : Margin) (message : Message) : Run × Margin × Showing :=
  match run.receive message with
  | .ok (after, report) => (after, (margin.showAll report.events).1, run.showing margin report)
  | .error _ => (run, margin, ⟨margin.annotations, [], [Child.log .error "Message handler failed"]⟩)

theorem shown_of_receive {run after : Run} {message : Message} {report : RunReport}
    (taken : run.receive message = .ok (after, report)) (margin : Margin) :
    run.shown margin message = (after, (margin.showAll report.events).1, run.showing margin report) := by
  rw [shown, taken]

/-- What is shown with each of some messages. -/
def watch (run : Run) (margin : Margin) : List Message → List Showing
  | [] => []
  | message :: messages =>
    let (after, margin, showing) := run.shown margin message
    showing :: after.watch margin messages

/-- The run when it classifies what it passes on. -/
def early (run : Run) : Run := { run with classifies := true }

/-- The run when it passes on what it gets. -/
def late (run : Run) : Run := { run with classifies := false }

/-- What is reported when the receiver of an event fails. -/
def receiverLogs (run : Run) : List Log.Record :=
  if run.receiverFails then [run.log .error "event sink failed, event dropped"] else []

theorem emit_of_live {run : Run} (live : run.state ≠ .terminated) (event : Event) :
    run.emit event = ⟨[event], [], run.receiverLogs⟩ := if_neg live

theorem emit_of_terminated {run : Run} (past : run.state = .terminated) (event : Event) :
    run.emit event = .none := if_pos past

/-- That the receiver fails is not part of the normal course of events. -/
theorem infos_receiverLogs (run : Run) : run.receiverLogs.filter (·.level == .info) = [] := by
  unfold receiverLogs
  split <;> rfl

/-- Nor is it that the margin fails. -/
theorem infos_dropLogs (run : Run) (events : List Event) :
    (run.dropLogs events).filter (·.level == .info) = [] := by
  refine List.filter_eq_nil_iff.mpr fun record member => ?_
  obtain ⟨event, -, rfl⟩ := List.mem_map.mp member
  simp [log]

theorem report_early (run : Run) (event : Event) :
    run.early.report event = match event.classify with
      | (some classified, logs) => .ofLogs logs ++ run.early.emit classified
      | (none, logs) => .ofLogs logs := if_pos rfl

theorem report_late (run : Run) (event : Event) : run.late.report event = run.late.emit event := rfl

section Alike

variable (run : Run) (margin : Margin) {event : Event} {found : Option Event × List Log.Record}

/-- A run that is over passes nothing on. What it reports itself is of no account to the margin. -/
theorem alike_report_of_terminated (past : run.state = .terminated) (answered : event.classify? = .ok found) :
    (run.early.report event).events = (run.late.report event).events ∧
      (run.early.showing margin (run.early.report event)).Alike False
        (run.late.showing margin (run.late.report event)) := by
  have early : run.early.report event = .ofLogs found.2 := by
    rw [report_early, Event.classify_of_ok answered]
    obtain ⟨_ | classified, logs⟩ := found
    · rfl
    · dsimp only
      rw [emit_of_terminated (show run.early.state = .terminated from past)]
      exact congrArg RunReport.ofLogs (List.append_nil logs)
  have silent : (found.2.filter (·.level == .info)).filter (·.component == .table) = [] := by
    refine List.filter_eq_nil_iff.mpr fun record member => ?_
    rw [Event.component_of_classify? answered record (List.mem_of_mem_filter member)]
    decide
  rw [early, report_late, emit_of_terminated (show run.late.state = .terminated from past)]
  refine ⟨rfl, rfl, rfl, ?_, False.elim⟩
  simpa [showing, dropLogs, Showing.marginInfos, Showing.infos, RunReport.ofLogs, RunReport.none, MarginReport.none]
    using silent

/-- **An event looks alike** whether the run classifies it or not. -/
theorem alike_report (answered : event.classify? = .ok found) :
    (run.early.showing margin (run.early.report event)).Alike (run.state ≠ .terminated)
        (run.late.showing margin (run.late.report event)) ∧
      (margin.showAll (run.early.report event).events).1 =
        (margin.showAll (run.late.report event).events).1 := by
  by_cases past : run.state = .terminated
  · obtain ⟨events, alike⟩ := run.alike_report_of_terminated margin past answered
    exact ⟨⟨alike.annotations, alike.published, alike.marginInfos, fun live => absurd past live⟩, by rw [events]⟩
  · -- The margin classifies what the run left alone, and again what the run classified, which changes nothing.
    have fails := infos_receiverLogs
    have drops := infos_dropLogs
    rw [report_late, emit_of_live (show run.late.state ≠ .terminated from past), report_early,
      Event.classify_of_ok answered]
    obtain ⟨_ | classified, logs⟩ := found
    · have updated : margin.update event =
          (margin, ⟨[], logs ++ [⟨.table, .debug, s!"Discarded output on line {event.line}"⟩]⟩) := by
        rw [Margin.update, answered]
      have infos : (run.early.showing margin (.ofLogs logs)).infos =
          (run.late.showing margin ⟨[event], [], run.late.receiverLogs⟩).infos := by
        simp [showing, Showing.infos, RunReport.ofLogs, updated, fails, drops, MarginReport.none]
      refine ⟨⟨?_, ?_, congrArg (List.filter _) infos, fun _ => infos⟩, ?_⟩
      all_goals simp [showing, RunReport.ofLogs, updated, MarginReport.none]
    · dsimp only
      rw [emit_of_live (show run.early.state ≠ .terminated from past)]
      have updated := Margin.update_of_classify? answered margin
      have infos : (run.early.showing margin (.ofLogs logs ++ ⟨[classified], [], run.early.receiverLogs⟩)).infos =
          (run.late.showing margin ⟨[event], [], run.late.receiverLogs⟩).infos := by
        simp [showing, Showing.infos, RunReport.ofLogs, updated, fails, drops]
      refine ⟨⟨?_, ?_, congrArg (List.filter _) infos, fun _ => infos⟩, ?_⟩
      all_goals simp [showing, RunReport.ofLogs, updated]

/-- An event that cannot be classified shows nothing, whether the run fails on it or the margin. -/
theorem alike_of_fault {fault : NumeralError} (failed : event.classify? = .error fault) :
    Showing.Alike (run.state ≠ .terminated) ⟨margin.annotations, [], [Child.log .error "Message handler failed"]⟩
        (run.late.showing margin (run.late.report event)) ∧
      margin = (margin.showAll (run.late.report event).events).1 := by
  rw [report_late]
  by_cases past : run.state = .terminated
  · rw [emit_of_terminated (show run.late.state = .terminated from past)]
    exact ⟨⟨rfl, rfl, rfl, fun _ => rfl⟩, rfl⟩
  · rw [emit_of_live (show run.late.state ≠ .terminated from past)]
    have updated := Margin.update_of_error failed margin
    have infos : [Child.log .error "Message handler failed"].filter (·.level == .info) =
        (run.late.showing margin ⟨[event], [], run.late.receiverLogs⟩).infos := by
      simp [showing, Showing.infos, updated, infos_receiverLogs, infos_dropLogs, Child.log, MarginReport.none]
    refine ⟨⟨?_, ?_, congrArg (List.filter _) infos, fun _ => infos⟩, ?_⟩
    all_goals simp [showing, updated, MarginReport.none]

/-- **A message looks alike** whether the run classifies or not, and leaves the run and the margin the same. -/
theorem alike_shown {line : List Char} {message : Message} (accepted : Message.decode line = .ok message) :
    ∃ (after : Run) (later : Margin) (first second : Showing),
      run.early.shown margin message = (after.early, later, first) ∧
      run.late.shown margin message = (after.late, later, second) ∧
      after.state = run.state ∧ first.Alike (run.state ≠ .terminated) second := by
  have alike (report : RunReport) (silent : report.events = []) :
      (run.early.showing margin report).Alike (run.state ≠ .terminated) (run.late.showing margin report) := by
    refine ⟨rfl, rfl, ?_, fun _ => ?_⟩ <;>
      simp [showing, dropLogs, Showing.marginInfos, Showing.infos, silent]
  by_cases drained : message.type? = some .drained
  · have noted (run : Run) : run.receive message = .ok ({ run with drained := true }, .none) := if_pos drained
    exact ⟨{ run with drained := true }, margin, _, _, shown_of_receive (noted run.early) margin,
      shown_of_receive (noted run.late) margin, rfl, alike .none rfl⟩
  · rcases Message.toEvent_of_decode accepted run.id with ⟨_ | event, told⟩ | ⟨fault, told, malformed⟩
    · have silent (run : Run) (told : message.toEvent run.id = .ok none) :
          run.receive message = .ok (run, .none) := by
        rw [receive, if_neg drained, told]
      exact ⟨run, margin, _, _, shown_of_receive (silent run.early told) margin,
        shown_of_receive (silent run.late told) margin, rfl, alike .none rfl⟩
    · have lateTaken : run.late.receive message = .ok (run.late, run.late.report event) := by
        rw [receive, if_neg drained, show message.toEvent run.late.id = _ from told]
        rfl
      have lateShown := shown_of_receive lateTaken margin
      cases answer : event.classify? with
      | ok found =>
        obtain ⟨same, margins⟩ := run.alike_report margin answer
        have earlyTaken : run.early.receive message = .ok (run.early, run.early.report event) := by
          rw [receive, if_neg drained, show message.toEvent run.early.id = _ from told]
          simp [fault?, Event.fault?, answer]
        rw [← margins] at lateShown
        exact ⟨run, _, _, _, shown_of_receive earlyTaken margin, lateShown, rfl, same⟩
      | error fault =>
        obtain ⟨same, margins⟩ := run.alike_of_fault margin answer
        have earlyFails : run.early.receive message = .error (.unclassified fault) := by
          rw [receive, if_neg drained, show message.toEvent run.early.id = _ from told]
          simp [fault?, Event.fault?, answer, early]
        rw [← margins] at lateShown
        refine ⟨run, margin, _, _, ?_, lateShown, rfl, same⟩
        rw [shown, earlyFails]
    · have dropped (run : Run) (told : message.toEvent run.id = .error fault) :
          run.receive message =
            .ok (run, .ofLogs [run.log .warning ("dropped malformed message: " ++ fault.message)]) := by
        rw [receive, if_neg drained, told]
        simp only [malformed, if_true]
      exact ⟨run, margin, _, _, shown_of_receive (dropped run.early told) margin,
        shown_of_receive (dropped run.late told) margin, rfl, alike (.ofLogs _) rfl⟩

end Alike

end Run

/-- **A reader cannot tell where text is classified.** For all messages that are accepted and every margin,
whatever its limit and its listeners, a run that classifies printed text and one that leaves that to the margin
show the same with each message: the same annotations, the same that is published and the same reports of the
margin, and, unless the run is over, the same reports altogether. -/
theorem classifying_early_or_late (run : Run) (margin : Margin) (messages : List Message)
    (accepted : ∀ message ∈ messages, ∃ line, Message.decode line = .ok message) :
    (run.early.watch margin messages).length = messages.length ∧
      List.Forall₂ (Showing.Alike (run.state ≠ .terminated)) (run.early.watch margin messages)
        (run.late.watch margin messages) := by
  induction messages generalizing run margin with
  | nil => exact ⟨rfl, .nil⟩
  | cons message messages ih =>
    obtain ⟨⟨line, decoded⟩, others⟩ := List.forall_mem_cons.mp accepted
    obtain ⟨after, later, first, second, early, late, state, alike⟩ := run.alike_shown margin decoded
    obtain ⟨all, allAlike⟩ := ih after later others
    rw [Run.watch, Run.watch, early, late]
    refine ⟨congrArg (· + 1) all, ?_⟩
    rw [← state] at alike ⊢
    exact .cons alike allAlike

/-- A printed text that claims to come from another line is shown on that line either way. -/
theorem classifying_early_or_late_of_tagged_text :
    let run := Run.fresh 1 false (.fresh none none)
    let margin := Margin.empty Margin.defaultLimit
    let line := "\x7b\"type\": \"output\", \"line\": 1, \"text\": \"`\x7b2\x7d`a\"\x7d".toList
    ∃ message, Message.decode line = .ok message ∧ (run.early.watch margin [message]).length = 1 ∧
      List.Forall₂ (Showing.Alike (run.state ≠ .terminated)) (run.early.watch margin [message])
        (run.late.watch margin [message]) := by
  intro run margin line
  have readable : (Message.decode line).isOk = true := by decide +kernel
  cases decoded : Message.decode line with
  | error fault =>
    rw [decoded] at readable
    cases readable
  | ok message =>
    exact ⟨message, rfl, classifying_early_or_late run margin [message]
      fun other member => ⟨line, List.mem_singleton.mp member ▸ decoded⟩⟩

end Marginalia
