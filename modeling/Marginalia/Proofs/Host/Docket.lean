import Marginalia.Proofs.Host.Chronicle
import Mathlib.Data.List.DropRight

/-! # The docket of a host
What the events of a chronicle tell of the evaluations, without a look at the host (`Docket.ofEvents`): which
ones were asked for, how each of them ended and after which the end of the input was noted. A host keeps less
than that, and keeps it in other places: a buffer, the line on which a statement begins, the evaluation that
the report of an uncaught error ends. All of it is told by the docket (`Docket.Tells`), at every moment
(`Host.tells_after`). -/

namespace Marginalia

open Script

/-! ## Portions of statements -/

/-- An evaluation as the events tell it. -/
structure Portion where
  /-- The line that was told with it. -/
  line : ToldLine
  /-- The text that was told with it. -/
  code : List Char
  /-- How it ended, if it is over: whether its text is only the beginning of a statement. -/
  outcome : Option Bool
  /-- Whether the end of the input was noted after it and before the next one. -/
  closed : Bool
  deriving Repr

namespace Portion

/-- Whether the statement of a portion goes on behind it. -/
def goesOn (portion : Portion) : Bool := portion.outcome == some true && !portion.closed

/-- End a portion. Only the first time counts. -/
def settle (portion : Portion) (keepsText : Bool) : Portion :=
  { portion with outcome := portion.outcome.or (some keepsText) }

/-- Note the end of the input behind a portion. -/
def close (portion : Portion) : Portion := { portion with closed := true }

theorem settle_of_isSome {portion : Portion} (ended : portion.outcome.isSome) (keepsText : Bool) :
    portion.settle keepsText = portion := by
  obtain ⟨keeps, same⟩ := Option.isSome_iff_exists.mp ended
  rw [settle, same, Option.some_or, ← same]

theorem settle_of_going {portion : Portion} (going : portion.outcome = none) (keepsText : Bool) :
    portion.settle keepsText = { portion with outcome := some keepsText } := by
  rw [settle, going, Option.none_or]

end Portion

/-- The portions of the statement that is not complete: all of them behind the last one whose statement does
not go on. -/
def openPortions (portions : List Portion) : List Portion := portions.rtakeWhile Portion.goesOn

@[simp] theorem openPortions_nil : openPortions [] = [] := List.rtakeWhile_nil _

theorem openPortions_concat (portions : List Portion) (last : Portion) :
    openPortions (portions ++ [last]) = if last.goesOn then openPortions portions ++ [last] else [] :=
  List.rtakeWhile_concat _ _ _

/-- The text of some portions: each one is a line. -/
def statementText (portions : List Portion) : List Char :=
  portions.flatMap fun portion => portion.code ++ ['\n']

@[simp] theorem statementText_nil : statementText [] = [] := rfl

theorem statementText_concat (portions : List Portion) (last : Portion) :
    statementText (portions ++ [last]) = statementText portions ++ last.code ++ ['\n'] := by
  simp [statementText]

theorem statementText_eq_nil {portions : List Portion} : statementText portions = [] ↔ portions = [] := by
  cases portions <;> simp [statementText]

/-- The evaluation of a portion behind earlier ones: what is asked for is the text of the statement up to it. -/
def Portion.evaluation (portion : Portion) (earlier : List Portion) : Evaluation :=
  ⟨portion.line, statementText (openPortions earlier ++ [portion]), portion.outcome.isSome⟩

@[simp] theorem Portion.line_evaluation (portion : Portion) (earlier : List Portion) :
    (portion.evaluation earlier).line = portion.line := rfl

@[simp] theorem Portion.settled_evaluation (portion : Portion) (earlier : List Portion) :
    (portion.evaluation earlier).settled = portion.outcome.isSome := rfl

theorem Portion.text_evaluation (portion : Portion) (earlier : List Portion) :
    (portion.evaluation earlier).text = statementText (openPortions earlier) ++ portion.code ++ ['\n'] :=
  statementText_concat _ _

/-- The evaluation of a portion that ends is over, and asks for what it asked for. -/
theorem Portion.evaluation_settle (portion : Portion) (keepsText : Bool) (earlier : List Portion) :
    (portion.settle keepsText).evaluation earlier = { portion.evaluation earlier with settled := true } := by
  rw [evaluation, evaluation, statementText_concat, statementText_concat]
  simp [settle]

/-- The evaluations of some portions. -/
def evaluationsOf (portions : List Portion) : List Evaluation :=
  portions.mapIdx fun number portion => portion.evaluation (portions.take number)

@[simp] theorem evaluationsOf_nil : evaluationsOf [] = [] := rfl

@[simp] theorem length_evaluationsOf (portions : List Portion) :
    (evaluationsOf portions).length = portions.length := List.length_mapIdx

theorem evaluationsOf_concat (portions : List Portion) (last : Portion) :
    evaluationsOf (portions ++ [last]) = evaluationsOf portions ++ [last.evaluation portions] := by
  have behind : (portions ++ [last]).take portions.length = portions := List.take_left
  rw [evaluationsOf, List.mapIdx_concat, behind]
  -- A portion at the end is not among the earlier ones of any other.
  refine congrArg (· ++ [last.evaluation portions]) (List.mapIdx_eq_mapIdx_iff.mpr fun number inside => ?_)
  rw [List.take_append_of_le_length inside.le]

theorem getElem?_evaluationsOf (portions : List Portion) (number : Nat) :
    (evaluationsOf portions)[number]? =
      portions[number]?.map fun portion => portion.evaluation (portions.take number) := List.getElem?_mapIdx

/-- Whether the end of the input is noted behind the last portion does not concern the evaluations. -/
theorem evaluationsOf_close (portions : List Portion) (last : Portion) :
    evaluationsOf (portions ++ [last.close]) = evaluationsOf (portions ++ [last]) := by
  have same : last.close.evaluation portions = last.evaluation portions := by
    rw [Portion.evaluation, Portion.evaluation, statementText_concat, statementText_concat]
    rfl
  rw [evaluationsOf_concat, evaluationsOf_concat, same]

theorem modify_concat {α : Type} (things : List α) (last : α) (change : α → α) :
    (things ++ [last]).modify things.length change = things ++ [change last] := by
  induction things with
  | nil => rfl
  | cons thing things ih => rw [List.cons_append, List.length_cons, List.modify_succ_cons, ih, List.cons_append]

theorem modify_eq_of_getElem? {α : Type} {things : List α} {number : Nat} {change : α → α}
    (same : ∀ thing, things[number]? = some thing → change thing = thing) :
    things.modify number change = things := by
  refine List.ext_getElem? fun other => ?_
  rw [List.getElem?_modify]
  by_cases here : number = other
  · subst here
    cases found : things[number]? with
    | none => rfl
    | some thing => simp [same thing found]
  · simp [here]

/-! ## Dockets -/

/-- What the events tell of the evaluations. -/
structure Docket where
  /-- The evaluations that were asked for, in their order. -/
  portions : List Portion
  /-- Whether the interpreter has not come back from what it was asked for. -/
  calling : Bool
  deriving Repr

namespace Docket

/-- The docket before anything happens. -/
def empty : Docket := ⟨[], false⟩

/-- The line of the evaluation that was asked for last; it is 0 before the first one. -/
def latestLine (docket : Docket) : ToldLine := (docket.portions.getLast?.map (·.line)).getD (some (.int 0))

/-- The evaluation that an action of the interpreter ends unless it is over, and whether its text stays: an
answer ends the one that it answers, and while the interpreter is asked, the report of an uncaught error ends
the one that it is asked for. -/
def verdict? (docket : Docket) : Action → Option (Nat × Bool)
  | .answer answer => answer.verdict?.map fun keepsText => (docket.portions.length - 1, keepsText)
  | .answerTo number answer => answer.verdict?.map fun keepsText => (number, keepsText)
  | .print text =>
    if docket.calling && UncaughtReport.opens text.toList then some (docket.portions.length - 1, false)
    else none
  | .throw _ | .write .. | .log .. | .decide .. | .callBack .. | .surface _ => none

/-- Note that an evaluation is over. -/
def settle (docket : Docket) (number : Nat) (keepsText : Bool) : Docket :=
  { docket with portions := docket.portions.modify number (·.settle keepsText) }

/-- Note the end of the evaluation that a verdict names, if there is one. -/
def judge (docket : Docket) : Option (Nat × Bool) → Docket
  | some (number, keepsText) => docket.settle number keepsText
  | none => docket

/-- Note a command that starts. -/
def begin (docket : Docket) : Host.Request → Docket
  | .evaluate line code => ⟨docket.portions ++ [⟨line, code, none, false⟩], true⟩
  | .finish => { docket with portions := docket.portions.modify (docket.portions.length - 1) .close }
  | .exit | .unknown _ | .broken _ => docket

/-- Note an event. -/
def note (docket : Docket) : HostEvent → Docket
  | .start command => docket.begin (.read command)
  | .act action => docket.judge (docket.verdict? action)
  | .comeBack _ => { docket with calling := false }
  | .arrive _ | .garble _ | .close | .plan _ | .deliver | .drop _ | .surface => docket

/-- The docket of some events. -/
def ofEvents (events : List HostEvent) : Docket := events.foldl note empty

@[simp] theorem ofEvents_nil : ofEvents [] = empty := rfl

@[simp] theorem ofEvents_concat (events : List HostEvent) (event : HostEvent) :
    ofEvents (events ++ [event]) = (ofEvents events).note event := List.foldl_concat ..

/-! ## What the docket tells of the desk -/

/-- All evaluations are over: what the desk keeps for the next one. -/
structure Rests (docket : Docket) (desk : Desk) : Prop where
  /-- All evaluations are over. -/
  ended : ∀ portion ∈ docket.portions, portion.outcome.isSome
  /-- No report of an uncaught error ends an evaluation. -/
  settler : desk.settler = none
  /-- The buffer is the text of the statement that is not complete. -/
  buffer : desk.buffer = statementText (openPortions docket.portions)
  /-- That statement begins on the line of its first portion. -/
  openLine : ∀ line ∈ ((openPortions docket.portions).map (·.line)).head?, desk.openLine = line

/-- The last evaluation is not over, the earlier ones are: what the desk keeps meanwhile. -/
structure Runs (docket : Docket) (desk : Desk) (earlier : List Portion) (last : Portion) : Prop where
  /-- The last evaluation stands behind the earlier ones. -/
  portions : docket.portions = earlier ++ [last]
  /-- The earlier evaluations are over. -/
  ended : ∀ portion ∈ earlier, portion.outcome.isSome
  /-- The last one is not. -/
  going : last.outcome = none
  /-- The end of the input was not noted behind it. -/
  unclosed : last.closed = false
  /-- The report of an uncaught error ends the last evaluation. -/
  settler : desk.settler = some earlier.length
  /-- The statement begins on the line of its first portion. -/
  openLine : ∀ line ∈ ((openPortions earlier ++ [last]).map (·.line)).head?, desk.openLine = line

/-- A docket tells what a desk keeps. -/
structure Tells (docket : Docket) (desk : Desk) : Prop where
  /-- The evaluations are those of the docket. -/
  evaluations : desk.evaluations = evaluationsOf docket.portions
  /-- The interpreter is asked just when the docket says so. -/
  asking : desk.asking = docket.calling
  /-- The current line is the one of the evaluation that was asked for last. -/
  currentLine : desk.currentLine = docket.latestLine
  /-- All evaluations are over, or all but the last one. -/
  phase : docket.Rests desk ∨ ∃ earlier last, docket.Runs desk earlier last

variable {docket : Docket} {host : Host} {earlier : List Portion} {last : Portion}

theorem tells_start (version : String) (setup : HostSetup) : empty.Tells (Host.start version setup).desk where
  evaluations := rfl
  asking := rfl
  currentLine := rfl
  phase := .inl ⟨nofun, rfl, rfl, nofun⟩

/-- The host has as many evaluations as the docket. -/
theorem Tells.length_evaluations (tells : docket.Tells host.desk) :
    host.evaluations.length = docket.portions.length :=
  (congrArg List.length tells.evaluations).trans (length_evaluationsOf _)

/-- The evaluation of a number is the one of its portion. -/
theorem Tells.getElem?_evaluations (tells : docket.Tells host.desk) (number : Nat) :
    host.evaluations[number]? =
      docket.portions[number]?.map fun portion => portion.evaluation (docket.portions.take number) :=
  (congrArg (·[number]?) tells.evaluations).trans (getElem?_evaluationsOf _ _)

/-- While the last evaluation is not over, the earlier ones stand in front of it. -/
theorem Tells.evaluations_of_runs (tells : docket.Tells host.desk)
    (runs : docket.Runs host.desk earlier last) :
    host.evaluations = evaluationsOf earlier ++ [last.evaluation earlier] := by
  have whole : host.evaluations = evaluationsOf docket.portions := tells.evaluations
  rw [whole, runs.portions, evaluationsOf_concat]

/-- A host whose last evaluation is not over is busy. -/
theorem Tells.isBusy_of_runs (tells : docket.Tells host.desk) (runs : docket.Runs host.desk earlier last) :
    host.isBusy = true := by
  rw [Host.isBusy, tells.evaluations_of_runs runs, List.getLast?_concat]
  simp [runs.going]

/-- All evaluations of a host that is not busy are over. -/
theorem Tells.rests (tells : docket.Tells host.desk) (idle : host.isBusy = false) :
    docket.Rests host.desk := by
  rcases tells.phase with rests | ⟨earlier, last, runs⟩
  · exact rests
  · exact absurd (tells.isBusy_of_runs runs) (by simp [idle])

/-- What waits, what broke down and whether the interpreter is asked are of no account for the evaluations. -/
theorem Tells.elsewhere (tells : docket.Tells host.desk) {asking calling : Bool} (asked : asking = calling)
    (waiting : List Json) (breakdown : Option Value) :
    { docket with calling := calling }.Tells
      { host.desk with asking := asking, waiting := waiting, breakdown := breakdown } := by
  refine ⟨tells.evaluations, asked, tells.currentLine, ?_⟩
  rcases tells.phase with rests | ⟨earlier, last, runs⟩
  · exact .inl ⟨rests.ended, rests.settler, rests.buffer, rests.openLine⟩
  · exact .inr
      ⟨earlier, last, runs.portions, runs.ended, runs.going, runs.unclosed, runs.settler, runs.openLine⟩

/-- Which commands wait is of no account for the docket. -/
theorem Tells.of_waiting (tells : docket.Tells host.desk) (waiting : List Json) :
    docket.Tells { host.desk with waiting := waiting } :=
  tells.elsewhere tells.asking waiting host.breakdown

/-- Whether something broke down is of no account for the docket. -/
theorem Tells.of_breakdown (tells : docket.Tells host.desk) (breakdown : Option Value) :
    docket.Tells { host.desk with breakdown := breakdown } :=
  tells.elsewhere tells.asking host.waiting breakdown

/-! ## The events and the docket -/

/-- The docket notes an evaluation that is asked for. -/
theorem Tells.ask (tells : docket.Tells host.desk) (rests : docket.Rests host.desk) (line : ToldLine)
    (code : List Char) : (docket.begin (.evaluate line code)).Tells (host.ask line code).desk := by
  have before : host.evaluations = evaluationsOf docket.portions := tells.evaluations
  have buffered : host.buffer = statementText (openPortions docket.portions) := rests.buffer
  have asked : (host.ask line code).evaluations =
      evaluationsOf (docket.portions ++ [⟨line, code, none, false⟩]) := by
    rw [Host.ask, evaluationsOf_concat, Portion.evaluation, statementText_concat, before, buffered]
    rfl
  have opened : ∀ begins ∈ ((openPortions docket.portions ++ [(⟨line, code, none, false⟩ : Portion)]).map
      (·.line)).head?, (host.ask line code).openLine = begins := fun begins leads => by
    rw [Host.ask, buffered]
    -- The statement begins with this portion just if nothing is in the buffer.
    cases group : openPortions docket.portions with
    | nil =>
      rw [group] at leads
      exact Option.some.inj leads
    | cons first others =>
      rw [group] at leads
      have filled : (statementText (first :: others)).isEmpty = false := by simp [statementText]
      rw [filled, if_neg Bool.false_ne_true]
      exact rests.openLine begins (by rw [group]; exact leads)
  refine ⟨asked, rfl, ?_,
    .inr ⟨docket.portions, ⟨line, code, none, false⟩, rfl, rests.ended, rfl, rfl, ?_, opened⟩⟩
  · simp [begin, latestLine, Host.desk, Host.ask]
  · exact congrArg some tells.length_evaluations

/-- The docket notes the end of the input. -/
theorem Tells.finish (tells : docket.Tells host.desk) (rests : docket.Rests host.desk) :
    (docket.begin .finish).Tells host.finish.desk := by
  rw [Host.desk_finish]
  rcases List.eq_nil_or_concat' docket.portions with none | ⟨earlier, last, portions⟩
  · have same : docket.begin .finish = docket := by
      rw [begin, none]
      exact congrArg (Docket.mk · docket.calling) none.symm
    rw [same]
    refine ⟨tells.evaluations, tells.asking, tells.currentLine, .inl ⟨rests.ended, rests.settler, ?_, ?_⟩⟩
    · rw [none]; rfl
    · rw [none]; exact nofun
  · have closed : docket.begin .finish = ⟨earlier ++ [last.close], docket.calling⟩ := by
      rw [begin, portions, List.length_append, List.length_singleton, Nat.add_sub_cancel, modify_concat]
    have nothing : openPortions (earlier ++ [last.close]) = [] := by
      rw [openPortions_concat, if_neg (by simp [Portion.goesOn, Portion.close])]
    have ended := rests.ended
    rw [portions] at ended
    rw [closed]
    refine ⟨?_, tells.asking, ?_, .inl ⟨?_, rests.settler, ?_, ?_⟩⟩
    · rw [evaluationsOf_close, ← portions]
      exact tells.evaluations
    · refine tells.currentLine.trans ?_
      simp [latestLine, portions, Portion.close]
    · simpa [Portion.close, or_imp, forall_and] using ended
    · rw [nothing]; rfl
    · rw [nothing]; exact nofun

/-- The docket notes a command that starts. -/
theorem Tells.begin (tells : docket.Tells host.desk) (rests : docket.Rests host.desk) (command : Json) :
    (docket.begin (.read command)).Tells (host.begin command).desk := by
  rw [Host.begin, Host.handle]
  cases Host.Request.read command with
  | evaluate line code => exact tells.ask rests line code
  | finish => exact tells.finish rests
  | exit | unknown => exact tells
  | broken fault => exact tells.of_breakdown (some fault)

/-- An evaluation that is over stays as it is in the docket. -/
theorem settle_of_over {number : Nat}
    (ended : ∀ portion, docket.portions[number]? = some portion → portion.outcome.isSome) (keepsText : Bool) :
    docket.settle number keepsText = docket := by
  have stays : docket.portions.modify number (·.settle keepsText) = docket.portions :=
    modify_eq_of_getElem? fun portion found => Portion.settle_of_isSome (ended portion found) keepsText
  rw [settle, stays]

/-- An evaluation that is over stays as it is. -/
theorem Tells.stays_of_over {number : Nat} (tells : docket.Tells host.desk)
    (ended : ∀ portion, docket.portions[number]? = some portion → portion.outcome.isSome) (keepsText : Bool) :
    host.settle number keepsText = host := by
  have asked := tells.getElem?_evaluations number
  cases found : docket.portions[number]? with
  | none => exact Host.settle_of_none (by rw [asked, found]; rfl) keepsText
  | some portion =>
    rw [found, Option.map_some] at asked
    exact Host.settle_of_settled asked (ended portion found) keepsText

/-- What the end of the last evaluation does to the desk. -/
theorem Tells.desk_settle_last (tells : docket.Tells host.desk) (runs : docket.Runs host.desk earlier last)
    (keepsText : Bool) :
    (host.settle earlier.length keepsText).desk =
      { host.desk with
        evaluations := evaluationsOf (earlier ++ [last.settle keepsText])
        settler := none
        buffer := statementText (openPortions (earlier ++ [last.settle keepsText])) } := by
  have asked : host.evaluations[earlier.length]? = some (last.evaluation earlier) := by
    rw [tells.evaluations_of_runs runs, ← length_evaluationsOf earlier, List.getElem?_concat_length]
  have going : (last.evaluation earlier).settled = false := by simp [runs.going]
  have noted : host.evaluations.set earlier.length { last.evaluation earlier with settled := true } =
      evaluationsOf (earlier ++ [last.settle keepsText]) := by
    rw [tells.evaluations_of_runs runs, evaluationsOf_concat, Portion.evaluation_settle, List.set_append,
      length_evaluationsOf, if_neg (lt_irrefl _), Nat.sub_self, List.set_cons_zero]
  -- The statement goes on behind this portion just if the text stays.
  have kept : (if keepsText then (last.evaluation earlier).text else []) =
      statementText (openPortions (earlier ++ [last.settle keepsText])) := by
    rw [openPortions_concat, Portion.text_evaluation, Portion.settle_of_going runs.going]
    cases keepsText <;> simp [Portion.goesOn, runs.unclosed, statementText_concat]
  rw [Host.settle, asked]
  dsimp only
  rw [going, if_neg Bool.false_ne_true, noted, kept]
  rfl

/-- The docket notes the end of the evaluation that was not over. -/
theorem Tells.settle_last (tells : docket.Tells host.desk) (runs : docket.Runs host.desk earlier last)
    (keepsText : Bool) :
    (docket.settle earlier.length keepsText).Tells (host.settle earlier.length keepsText).desk := by
  have settled := Portion.settle_of_going runs.going keepsText
  have noted : docket.settle earlier.length keepsText =
      ⟨earlier ++ [last.settle keepsText], docket.calling⟩ := by
    rw [settle, runs.portions, modify_concat]
  rw [noted, tells.desk_settle_last runs]
  refine ⟨rfl, tells.asking, ?_, .inl ⟨fun portion member => ?_, rfl, rfl, ?_⟩⟩
  · refine tells.currentLine.trans ?_
    simp [latestLine, runs.portions, settled]
  · rcases List.mem_append.mp member with before | itself
    · exact runs.ended portion before
    · rw [List.mem_singleton.mp itself, settled]
      rfl
  · rw [openPortions_concat, settled]
    split
    · simpa using runs.openLine
    · simp

/-- The docket notes the end of an evaluation. -/
theorem Tells.settle (tells : docket.Tells host.desk) (number : Nat) (keepsText : Bool) :
    (docket.settle number keepsText).Tells (host.settle number keepsText).desk := by
  have stays : (∀ portion, docket.portions[number]? = some portion → portion.outcome.isSome) →
      (docket.settle number keepsText).Tells (host.settle number keepsText).desk := fun ended => by
    rw [settle_of_over ended, tells.stays_of_over ended]
    exact tells
  rcases tells.phase with rests | ⟨earlier, last, runs⟩
  · exact stays fun portion found => rests.ended portion (List.mem_of_getElem? found)
  · by_cases itself : number = earlier.length
    · rw [itself]
      exact tells.settle_last runs keepsText
    · refine stays fun portion found => ?_
      rw [runs.portions] at found
      obtain ⟨inside, -⟩ := List.getElem?_eq_some_iff.mp found
      rw [List.length_append, List.length_singleton] at inside
      rw [List.getElem?_append_left (by omega)] at found
      exact runs.ended portion (List.mem_of_getElem? found)

/-- The docket notes what the interpreter does. -/
theorem Tells.act (tells : docket.Tells host.desk) (action : Action) :
    (docket.judge (docket.verdict? action)).Tells (host.act action).1.desk := by
  have judged : ∀ verdict, (docket.judge verdict).Tells (host.judge verdict).desk := fun verdict => by
    cases verdict with
    | none => exact tells
    | some verdict => exact tells.settle verdict.1 verdict.2
  have asking : host.asking = docket.calling := tells.asking
  rw [Host.desk_act]
  cases action with
  | answer answer =>
    rw [Host.verdict?, tells.length_evaluations]
    exact judged _
  | answerTo number answer => exact judged _
  | print text =>
    rw [Host.verdict?, verdict?, asking]
    cases docket.calling && UncaughtReport.opens text.toList with
    | false => exact tells
    | true =>
      rcases tells.phase with rests | ⟨earlier, last, runs⟩
      · -- All evaluations are over: the docket names the last one in vain, and the host names none.
        have none : host.settler = none := rests.settler
        rw [if_pos rfl, if_pos rfl, none, Option.map_none, judge,
          settle_of_over fun portion found => rests.ended portion (List.mem_of_getElem? found)]
        exact tells
      · have number : host.settler = some earlier.length := runs.settler
        have last : docket.portions.length - 1 = earlier.length := by simp [runs.portions]
        rw [if_pos rfl, if_pos rfl, number, last]
        exact judged (some (earlier.length, false))
  | throw | write | log | decide | callBack | surface => exact tells

/-- **The docket notes every event** that a host allows. -/
theorem Tells.note (tells : docket.Tells host.desk) {event : HostEvent} (allowed : host.Allows event) :
    (docket.note event).Tells (host.happen event).desk := by
  cases event with
  | arrive command => exact tells.of_waiting _
  | garble line => rw [Host.happen, Host.desk_sendOutput]; exact tells
  | close | plan => exact tells
  | start command =>
    obtain ⟨-, idle, -⟩ := allowed
    have popped : docket.Tells host.popped.desk := tells.of_waiting _
    exact popped.begin (popped.rests idle) command
  | act action => exact tells.act action
  | comeBack thrown => exact tells.elsewhere rfl host.waiting _
  | deliver => rw [Host.happen, Host.desk_deliver]; exact tells
  | drop reason => exact tells.of_waiting _
  | surface => rw [Host.happen, Host.desk_surfaceAll]; exact tells

end Docket

namespace Host

/-- **The docket of a chronicle tells what the host keeps.** -/
theorem tells_after {version : String} {setup : HostSetup} {events : List HostEvent}
    (admitted : (start version setup).Admits events) :
    (Docket.ofEvents events).Tells ((start version setup).after events).desk := by
  refine admitted.induction
    (motive := fun events => (Docket.ofEvents events).Tells ((start version setup).after events).desk)
    (Docket.tells_start version setup) fun before event _ allowed tells => ?_
  rw [Docket.ofEvents_concat, after_append]
  exact tells.note allowed

end Host

end Marginalia
