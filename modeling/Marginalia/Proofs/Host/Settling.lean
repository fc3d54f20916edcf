import Marginalia.Proofs.Host.Docket

/-! # What ends an evaluation
Commands start in the order in which they came, and each only when all evaluations before it are over
(`Host.order_after`, `Docket.Tells.settled`). An evaluation is over since the first event that ends it, which is
its own answer or, while it is being asked for, the report of an uncaught error (`Docket.Ends`); whatever
else is printed is output, and what would end an evaluation once more changes nothing. -/

namespace Marginalia

open Script

/-! ## Commands in their order -/

namespace HostStep

/-- The command that a step brings, if it brings one. -/
def command? : HostStep → Option Json
  | .line text => (Json.read? Json.strictDialect text).map (·.rounded)
  | .command brought => some brought.rounded
  | .act _ | .schedule _ | .close => none

end HostStep

namespace HostEvent

/-- The command that comes with an event, if one does. -/
def arriving? : HostEvent → Option Json
  | .arrive command => some command
  | _ => none

/-- The command that starts with an event, if one does. -/
def starting? : HostEvent → Option Json
  | .start command => some command
  | _ => none

end HostEvent

/-- The commands that came, in their order. -/
def arrivals (events : List HostEvent) : List Json := events.filterMap HostEvent.arriving?

/-- The commands that started, in their order. -/
def starts (events : List HostEvent) : List Json := events.filterMap HostEvent.starting?

@[simp] theorem arrivals_nil : arrivals [] = [] := rfl

@[simp] theorem arrivals_cons (event : HostEvent) (events : List HostEvent) :
    arrivals (event :: events) = event.arriving?.toList ++ arrivals events := by
  cases event <;> rfl

@[simp] theorem arrivals_append (first second : List HostEvent) :
    arrivals (first ++ second) = arrivals first ++ arrivals second := List.filterMap_append

@[simp] theorem starts_append (first second : List HostEvent) :
    starts (first ++ second) = starts first ++ starts second := List.filterMap_append

@[simp] theorem starts_singleton (event : HostEvent) : starts [event] = event.starting?.toList := by
  cases event <;> rfl

namespace Host

variable {host : Host}

@[simp] theorem arrivals_actEvents (host : Host) (actions : List Action) :
    arrivals (host.actEvents actions) = [] := by
  induction actions generalizing host with
  | nil => rfl
  | cons action actions ih =>
    rw [actEvents, arrivals_cons]
    rcases host.act action with ⟨after, _ | thrown⟩
    · exact ih after
    · rfl

@[simp] theorem arrivals_startEvents (host : Host) (command : Json) :
    arrivals (host.startEvents command) = [] := by
  rw [startEvents, arrivals_cons]
  cases Request.read command with
  | evaluate line code => simp [HostEvent.arriving?]
  | finish | exit | unknown | broken => rfl

@[simp] theorem arrivals_advanceEvents (host : Host) (commands : List Json) :
    arrivals (host.advanceEvents commands) = [] := by
  induction commands generalizing host with
  | nil => rfl
  | cons command commands ih =>
    rw [advanceEvents]
    split
    · rfl
    · split
      · rfl
      · dsimp only
        split <;> simp [HostEvent.arriving?, ih]

/-- The commands that come are those that the steps bring. -/
theorem arrivals_chronicle (host : Host) (history : List HostStep) :
    arrivals (host.chronicle history) = history.filterMap HostStep.command? := by
  induction history generalizing host with
  | nil => rfl
  | cons step history ih =>
    rw [chronicle, arrivals_append, ih]
    cases step with
    | line text =>
      rw [stepEvents, List.filterMap_cons, HostStep.command?]
      cases Json.read? Json.strictDialect text with
      | none => rfl
      | some command => simp [takeEvents, HostEvent.arriving?]
    | command command => simp [stepEvents, takeEvents, HostEvent.arriving?, HostStep.command?]
    | act actions => simp [stepEvents, HostEvent.arriving?, HostStep.command?, List.filterMap_cons]
    | schedule | close => rfl

@[simp] theorem waiting_begin (host : Host) (command : Json) : (host.begin command).waiting = host.waiting := by
  rw [begin, handle]
  cases Request.read command with
  | finish => exact host.waiting_finish
  | evaluate | exit | unknown | broken => rfl

/-- The commands that started and those that wait are the ones that came, in their order. Only a breakdown
takes some of them away. -/
structure InOrder (host : Host) (events : List HostEvent) : Prop where
  /-- The commands that started are the first ones that came. -/
  first : starts events <+: arrivals events
  /-- The others wait, if nothing broke down. -/
  others : host.breakdown = none → starts events ++ host.waiting = arrivals events

/-- An event that is no command's leaves the commands in order. -/
theorem InOrder.keep {other : Host} {events : List HostEvent} {event : HostEvent}
    (ordered : host.InOrder events) (comes : event.arriving? = none) (begins : event.starting? = none)
    (waits : other.breakdown = none → host.breakdown = none ∧ other.waiting = host.waiting) :
    other.InOrder (events ++ [event]) := by
  refine ⟨?_, fun running => ?_⟩
  · simpa [comes, begins] using ordered.first
  · obtain ⟨before, same⟩ := waits running
    simpa [comes, begins, same] using ordered.others before

/-- An event that a host allows leaves the commands in order. -/
theorem InOrder.note {before : List HostEvent} {event : HostEvent} (ordered : host.InOrder before)
    (allowed : host.Allows event) : (host.happen event).InOrder (before ++ [event]) := by
  cases event with
  | arrive command =>
    refine ⟨?_, fun running => ?_⟩
    · simpa [HostEvent.arriving?, HostEvent.starting?] using ordered.first.trans (List.prefix_append _ _)
    · have kept := ordered.others running
      simp [happen, HostEvent.arriving?, HostEvent.starting?, ← kept]
  | start command =>
    -- The command goes from the front of those that wait to the end of those that started.
    obtain ⟨leads, -, -, running⟩ := allowed
    obtain ⟨rest, waiting⟩ := List.head?_eq_some_iff.mp leads
    have kept := ordered.others running
    have whole : starts (before ++ [.start command]) ++ rest = arrivals (before ++ [.start command]) := by
      simp [HostEvent.arriving?, HostEvent.starting?, ← kept, waiting]
    refine ⟨⟨rest, whole⟩, fun _ => ?_⟩
    rw [happen, waiting_begin, popped, waiting]
    exact whole
  | act action =>
    exact ordered.keep rfl rfl fun running => ⟨(host.breakdown_act action).symm.trans running,
      host.waiting_act action⟩
  | comeBack thrown =>
    refine ordered.keep rfl rfl fun running => ⟨?_, rfl⟩
    -- Something that broke down stays broken, whatever else is thrown.
    rw [happen, comeBack] at running
    dsimp only at running
    split at running
    · exact (Option.or_eq_none_iff.mp running).2
    · exact running
  | deliver =>
    exact ordered.keep rfl rfl fun running => ⟨(congrArg Desk.breakdown host.desk_deliver).symm.trans running,
      host.waiting_deliver⟩
  | drop reason =>
    have broken : host.breakdown = some reason := allowed
    refine ordered.keep rfl rfl fun running => absurd (broken.symm.trans running) (by simp)
  | surface =>
    have same := host.desk_surfaceAll
    exact ordered.keep rfl rfl fun running => ⟨(congrArg Desk.breakdown same).symm.trans running,
      congrArg Desk.waiting same⟩
  | garble | close | plan => exact ordered.keep rfl rfl fun running => ⟨running, rfl⟩

/-- **Commands start in the order in which they came.** -/
theorem order_after {version : String} {setup : HostSetup} {events : List HostEvent}
    (admitted : (start version setup).Admits events) :
    ((start version setup).after events).InOrder events := by
  refine admitted.induction
    (motive := fun events => ((start version setup).after events).InOrder events)
    ⟨List.prefix_refl _, fun _ => rfl⟩ fun before event _ allowed ordered => ?_
  rw [after_append, after_cons, after_nil]
  exact ordered.note allowed

/-! ## Commands that wait -/

/-- Commands wait only for an evaluation that is not over. -/
def WaitsForCause (host : Host) : Prop := host.waiting = [] ∨ host.isBusy = true

theorem WaitsForCause.of_desk {other : Host} (waits : host.WaitsForCause) (same : other.desk = host.desk) :
    other.WaitsForCause := by
  have waiting : other.waiting = host.waiting := congrArg Desk.waiting same
  have evaluations : other.evaluations = host.evaluations := congrArg Desk.evaluations same
  rwa [WaitsForCause, isBusy, waiting, evaluations]

/-- Commands are carried out as far as evaluations are over. -/
theorem waits_advance (host : Host) (commands : List Json) : (host.advance commands).WaitsForCause := by
  induction commands generalizing host with
  | nil => exact .inl rfl
  | cons command commands ih =>
    rw [advance]
    split
    · exact .inl rfl
    · split
      · rename_i busy
        exact .inr busy
      · dsimp only
        split
        · exact .inl rfl
        · exact ih _

/-- **No command waits without a cause**: between the steps of a history one waits only if an evaluation is not
over. -/
theorem waits_steps (waits : host.WaitsForCause) (history : List HostStep) :
    (host.steps history).WaitsForCause := by
  induction history generalizing host with
  | nil => exact waits
  | cons step history ih =>
    refine ih ?_
    have carried : ∀ (other : Host) commands, (other.advance commands).surfaceAll.WaitsForCause :=
      fun other commands => (other.waits_advance commands).of_desk (desk_surfaceAll _)
    cases step with
    | line text =>
      rw [Host.step, takeLine]
      split
      · exact carried _ _
      · exact waits.of_desk (desk_sendOutput _ _)
    | command | act => exact carried _ _
    | schedule | close => exact waits

/-- Whether the evaluation of a number is over. -/
def IsOver (host : Host) (number : Nat) : Prop :=
  ∃ evaluation, host.evaluations[number]? = some evaluation ∧ evaluation.settled = true

end Host

/-! ## The events that end an evaluation -/

/-- Whether an answer can be reported: a look at its value or error does not throw, and an error can be described.
-/
def Answer.isTellable : Answer → Bool
  | .error thrown => isDescribable thrown
  | .value _ | .recoverable => true
  | .unreportable .. => false

/-- Whether an event is no answer that cannot be reported. -/
def HostEvent.IsTellable : HostEvent → Prop
  | .act (.answer answer) | .act (.answerTo _ answer) => answer.isTellable = true
  | _ => True

/-- An answer that can be reported ends an evaluation. -/
theorem Answer.exists_verdict {answer : Answer} (tellable : answer.isTellable = true) :
    ∃ keepsText, answer.verdict? = some keepsText := by
  cases answer with
  | recoverable | value => exact ⟨_, rfl⟩
  | error thrown =>
    have describable : isDescribable thrown = true := tellable
    exact ⟨false, by simp [verdict?, describable]⟩
  | unreportable => cases tellable

namespace Docket

variable {docket : Docket} {host : Host}

/-- Whether an event ends the evaluation of a number, unless it is over: it is its answer, or the report of an
uncaught error while the evaluation is being asked for. -/
def Ends (docket : Docket) (number : Nat) : HostEvent → Prop
  | .act (.answer _) => number + 1 = docket.portions.length
  | .act (.answerTo other _) => number = other ∧ number < docket.portions.length
  | .act (.print text) =>
    docket.calling = true ∧ UncaughtReport.opens text.toList = true ∧ number + 1 = docket.portions.length
  | _ => False

/-- Whether the evaluation of a number is over. -/
def IsOver (docket : Docket) (number : Nat) : Prop :=
  ∃ portion, docket.portions[number]? = some portion ∧ portion.outcome.isSome

theorem isOver_settle (docket : Docket) (other : Nat) (keepsText : Bool) (number : Nat) :
    (docket.settle other keepsText).IsOver number ↔
      docket.IsOver number ∨ number = other ∧ number < docket.portions.length := by
  rw [IsOver, settle, List.getElem?_modify]
  cases found : docket.portions[number]? with
  | none =>
    have outside : docket.portions.length ≤ number := List.getElem?_eq_none_iff.mp found
    simp [IsOver, outside]
  | some portion =>
    obtain ⟨inside, -⟩ := List.getElem?_eq_some_iff.mp found
    by_cases same : other = number
    · simp [IsOver, same, inside, Portion.settle]
    · simp [IsOver, found, same, Ne.symm same]

/-- A command that starts ends no evaluation. -/
theorem isOver_begin (docket : Docket) (request : Host.Request) (number : Nat) :
    (docket.begin request).IsOver number ↔ docket.IsOver number := by
  cases request with
  | evaluate line code =>
    rw [begin, IsOver, IsOver, List.getElem?_append]
    split
    · rfl
    · -- The new portion is the only one there, and it is not over.
      rename_i outside
      rw [List.getElem?_eq_none_iff.mpr (Nat.le_of_not_lt outside), List.getElem?_singleton]
      split <;> simp
  | finish =>
    rw [begin, IsOver, IsOver, List.getElem?_modify]
    cases docket.portions[number]? with
    | none => simp
    | some portion =>
      have same : (if docket.portions.length - 1 = number then portion.close else portion).outcome =
          portion.outcome := by
        split <;> rfl
      simp [same]
  | exit | unknown | broken => rfl

/-- What an event does to the evaluations that are over: it adds the one that it ends. -/
theorem isOver_note {event : HostEvent} (tellable : event.IsTellable) (number : Nat) :
    (docket.note event).IsOver number ↔ docket.IsOver number ∨ docket.Ends number event := by
  cases event with
  | start command =>
    have ends : docket.Ends number (.start command) ↔ False := Iff.rfl
    rw [ends, or_false, note, isOver_begin]
  | act action =>
    rw [note]
    cases action with
    | answer answer =>
      obtain ⟨keepsText, verdict⟩ := answer.exists_verdict tellable
      rw [verdict?, verdict, Option.map_some, judge, isOver_settle, Ends]
      exact or_congr_right (by omega)
    | answerTo other answer =>
      obtain ⟨keepsText, verdict⟩ := answer.exists_verdict tellable
      rw [verdict?, verdict, Option.map_some, judge, isOver_settle, Ends]
    | print text =>
      rw [verdict?, Ends]
      by_cases ends : docket.calling = true ∧ UncaughtReport.opens text.toList = true
      · rw [if_pos (by simp [ends]), judge, isOver_settle]
        exact or_congr_right (by simp only [ends, true_and]; omega)
      · rw [if_neg (by simpa using ends), judge, ← and_assoc]
        simp [ends]
    | throw | write | log | decide | callBack | surface => exact (or_iff_left id).symm
  | arrive | garble | close | plan | comeBack | deliver | drop | surface => exact (or_iff_left id).symm

/-- **An evaluation is over since the first event that ends it.** -/
theorem isOver_ofEvents {events : List HostEvent} (tellable : ∀ event ∈ events, event.IsTellable)
    (number : Nat) :
    (ofEvents events).IsOver number ↔
      ∃ before event, before ++ [event] <+: events ∧ (ofEvents before).Ends number event := by
  induction events using List.reverseRecOn with
  | nil => simp [IsOver, empty]
  | append_singleton earlier last ih =>
    rw [ofEvents_concat, isOver_note (tellable last (by simp)),
      ih fun event member => tellable event (by simp [member])]
    constructor
    · rintro (⟨before, event, inside, ends⟩ | ends)
      · exact ⟨before, event, inside.trans (List.prefix_append _ _), ends⟩
      · exact ⟨earlier, last, List.prefix_refl _, ends⟩
    · rintro ⟨before, event, inside, ends⟩
      rcases List.prefix_concat_iff.mp inside with whole | part
      · obtain ⟨rfl, same⟩ := List.append_inj' whole rfl
        obtain rfl := List.cons.inj same |>.1
        exact .inr ends
      · exact .inl ⟨before, event, part, ends⟩

/-- The docket tells which evaluations are over. -/
theorem Tells.isOver_iff (tells : docket.Tells host.desk) (number : Nat) :
    host.IsOver number ↔ docket.IsOver number := by
  rw [Host.IsOver, IsOver, tells.getElem?_evaluations]
  simp

/-- All evaluations of a host that is not busy are over. -/
theorem Tells.settled (tells : docket.Tells host.desk) (idle : host.isBusy = false) :
    ∀ evaluation ∈ host.evaluations, evaluation.settled = true := by
  intro evaluation member
  obtain ⟨number, found⟩ := List.mem_iff_getElem?.mp member
  rw [tells.getElem?_evaluations] at found
  obtain ⟨portion, here, rfl⟩ := Option.map_eq_some_iff.mp found
  exact (tells.rests idle).ended portion (List.mem_of_getElem? here)

/-- What is printed is output, unless it is the report of an uncaught error while an evaluation that is not over
is being asked for. -/
theorem Tells.print (tells : docket.Tells host.desk) {text : String}
    (plain : ¬(docket.calling = true ∧ UncaughtReport.opens text.toList = true ∧ host.isBusy = true)) :
    host.happen (.act (.print text)) = host.sendOutput text := by
  have asking : host.asking = docket.calling := tells.asking
  rw [Host.happen, Host.act, Host.takePrinted]
  rcases tells.phase with rests | ⟨earlier, last, runs⟩
  · have none : host.settler = none := rests.settler
    rw [none]
  · have busy := tells.isBusy_of_runs runs
    have number : host.settler = some earlier.length := runs.settler
    have other : ¬((host.asking && UncaughtReport.opens text.toList) = true) := by
      simpa [busy, asking] using plain
    rw [number]
    exact if_neg other

/-- What would end an evaluation that is over changes nothing of what the desk keeps. -/
theorem Tells.late (tells : docket.Tells host.desk) {event : HostEvent} {number : Nat}
    (ends : docket.Ends number event) (ended : host.IsOver number) : (host.happen event).desk = host.desk := by
  obtain ⟨evaluation, asked, settled⟩ := ended
  -- Whatever is said of this evaluation now comes too late.
  have stays : ∀ verdict : Option Bool,
      host.judge (verdict.map fun keepsText => (number, keepsText)) = host := fun verdict => by
    cases verdict with
    | none => rfl
    | some keepsText => exact Host.settle_of_settled asked settled keepsText
  cases event with
  | act action =>
    rw [Host.happen, Host.desk_act]
    cases action with
    | answer answer =>
      have last : number = host.evaluations.length - 1 := by
        rw [tells.length_evaluations]
        exact Nat.eq_sub_of_add_eq ends
      rw [Host.verdict?, ← last, stays]
    | answerTo other answer =>
      obtain ⟨rfl, -⟩ := ends
      rw [Host.verdict?, stays]
    | print text =>
      obtain ⟨-, -, last⟩ := ends
      rcases tells.phase with rests | ⟨earlier, portion, runs⟩
      · have none : host.settler = none := rests.settler
        rw [Host.verdict?, none, Option.map_none, ite_self, Host.judge]
      · have same : host.settler = some number := by
          refine runs.settler.trans (congrArg some ?_)
          simpa [runs.portions] using last.symm
        rw [Host.verdict?, same]
        split
        · exact congrArg Host.desk (stays (some false))
        · rfl
    | throw | write | log | decide | callBack | surface => exact ends.elim
  | start | arrive | garble | close | plan | comeBack | deliver | drop | surface => exact ends.elim

end Docket

/-- **One evaluation at a time, and only its own events end it.** Whatever commands a host is given and whatever
the interpreter does, commands start in the order in which they came, each only when all evaluations before it
are over; and none waits without a cause. As long as every answer can be reported, an evaluation is over just if
an event ended it: its own answer, or the report of an uncaught error while it was being asked for. Anything
else that is printed is sent as output and nothing else happens; and an answer or a report that comes when the
evaluation is over leaves the buffer, the evaluations and everything that waits as it is. -/
theorem host_evaluates_one_at_a_time (version : String) (setup : HostSetup) :
    let start := Host.start version setup
    (∀ history, start.after (start.chronicle history) = start.steps history ∧
      start.Admits (start.chronicle history) ∧
      arrivals (start.chronicle history) = history.filterMap HostStep.command? ∧
      (start.steps history).WaitsForCause) ∧
    ∀ events, start.Admits events →
      let host := start.after events
      let docket := Docket.ofEvents events
      host.InOrder events ∧
      (∀ command, host.Allows (.start command) → ∀ evaluation ∈ host.evaluations, evaluation.settled = true) ∧
      ((∀ event ∈ events, event.IsTellable) → ∀ number, host.IsOver number ↔
        ∃ before event, before ++ [event] <+: events ∧ (Docket.ofEvents before).Ends number event) ∧
      (∀ text, ¬(docket.calling = true ∧ UncaughtReport.opens text.toList = true ∧ host.isBusy = true) →
        host.happen (.act (.print text)) = host.sendOutput text) ∧
      ∀ event number, docket.Ends number event → host.IsOver number → (host.happen event).desk = host.desk := by
  intro start
  refine ⟨fun history => ?_, fun events admitted => ?_⟩
  · have quiet : start.asking = false := rfl
    obtain ⟨same, admitted⟩ := Host.chronicle_spec quiet history
    exact ⟨same, admitted, start.arrivals_chronicle history, Host.waits_steps (.inl rfl) history⟩
  · have tells := Host.tells_after admitted
    refine ⟨Host.order_after admitted, fun command allowed => tells.settled allowed.2.1, ?_,
      fun text plain => tells.print plain, fun event number ends ended => tells.late ends ended⟩
    intro tellable number
    rw [tells.isOver_iff, Docket.isOver_ofEvents tellable]

/-- The report of an uncaught error ends the evaluation that is being asked for. -/
theorem host_evaluates_one_at_a_time_of_report :
    let start := Host.start "v20.11.0" ⟨some 2, ["log"]⟩
    let events := [.arrive (evalCommand 1 "x"), .start (evalCommand 1 "x"),
      .act (.print "Uncaught RangeError: y\n")]
    start.Admits events ∧ (∀ event ∈ events, event.IsTellable) ∧ (start.after events).IsOver 0 := by
  intro start events
  have admitted : start.Admits events := ⟨trivial, ⟨rfl, rfl, rfl, rfl⟩, trivial, trivial⟩
  have tellable : ∀ event ∈ events, event.IsTellable := by simp [events, HostEvent.IsTellable]
  obtain ⟨-, -, ended, -⟩ := (host_evaluates_one_at_a_time "v20.11.0" ⟨some 2, ["log"]⟩).2 events admitted
  have asked : (Docket.ofEvents (events.take 2)).calling = true ∧
      (Docket.ofEvents (events.take 2)).portions.length = 1 := by decide +kernel
  refine ⟨admitted, tellable, (ended tellable 0).mpr ?_⟩
  exact ⟨events.take 2, _, List.prefix_refl _, asked.1, by decide, asked.2.symm⟩

/-- A printed text that begins with the letters of the word *Uncaught* but goes on with other letters ends
nothing, although the evaluation is being asked for; nor does an answer with an error whose message has no
text, or with a value that throws when it is looked at. -/
theorem evaluation_outlives_print_and_answer :
    let start := Host.start "v20.11.0" ⟨some 2, ["log"]⟩
    let printed := start.steps [.schedule [.print "Uncaughtable\n"], .command (evalCommand 1 "x"),
      .command (evalCommand 2 "1")]
    let answered := start.steps [.schedule [], .command (evalCommand 1 "await x"),
      .act [.answer (.error (.record .plain [("message", .record .plain [("toString", .null)])]))],
      .command (evalCommand 2 "1")]
    let thrown := start.steps [.schedule [], .command (evalCommand 1 "await x"),
      .act [.answer (.unreportable false (.text "then"))], .command (evalCommand 2 "1")]
    "Uncaught".toList <+: "Uncaughtable\n".toList ∧
      printed.evaluations.map (·.settled) = [false] ∧ printed.waiting.length = 1 ∧
      answered.evaluations.map (·.settled) = [false] ∧ answered.waiting.length = 1 ∧
      thrown.evaluations.map (·.settled) = [false] ∧ thrown.waiting.length = 1 := by
  decide +kernel

end Marginalia
