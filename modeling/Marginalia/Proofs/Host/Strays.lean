import Marginalia.Proofs.Host.Past
import Marginalia.Proofs.Host.Rest
import Marginalia.Proofs.Host.Settling

/-! # Lines that are no commands
A line that the host cannot read as a command, or whose command it does not know, is a stray: it is answered with
one output, and apart from that and from what it kept waiting meanwhile the host is the one to which the line
never came (`host_passes_over_strays`). This holds as long as nothing breaks the host, and three things do
(`Host.Breaks`): the line `null`, which has no members to look at, an evaluation of something that has no text,
and an interpreter that throws out of an evaluation. After that the host reports the same error for every
command that comes, and carries out none. -/

namespace Marginalia

open Script

namespace Host

/-! ## Strays -/

/-- Whether the host knows a command by its name. -/
def knows (command : Json) : Bool :=
  match command.get? "op" with
  | some (.str name) => ["eval", "end", "exit"].contains name
  | _ => false

/-- What a command is to be answered with that the host does not know. -/
def strayAnswer? (command : Json) : Option String :=
  if knows command then none else some (unknownText (command.get? "op"))

theorem strayAnswer?_of_knows {command : Json} (known : knows command = true) : strayAnswer? command = none :=
  if_pos known

theorem strayAnswer?_of_not_knows {command : Json} (stray : knows command = false) :
    strayAnswer? command = some (unknownText (command.get? "op")) :=
  if_neg (Bool.eq_false_iff.mp stray)

/-- A command that the host does not know is read as such, unless it is `null`. -/
theorem read_of_not_knows {command : Json} (stray : knows command = false) (something : command ≠ .null) :
    Request.read command = .unknown (command.get? "op") := by
  have unnamed (name : String) (known : ["eval", "end", "exit"].contains name = true) :
      command.get? "op" ≠ some (.str name) := by
    intro named
    rw [knows, named] at stray
    exact absurd known (Bool.eq_false_iff.mp stray)
  unfold Request.read
  split
  · exact absurd rfl something
  · split
    · next named => exact absurd named (unnamed "eval" rfl)
    · next named => exact absurd named (unnamed "end" rfl)
    · next named => exact absurd named (unnamed "exit" rfl)
    · rfl

/-- What cannot be read is `null`, or asks to evaluate something that has no text. -/
theorem read_eq_broken_iff (command : Json) :
    (∃ fault, Request.read command = .broken fault) ↔
      command = .null ∨ command.get? "op" = some (.str "eval") ∧ ∃ fault, codeOf command = .error fault := by
  constructor
  · rintro ⟨fault, broken⟩
    unfold Request.read at broken
    split at broken
    · exact .inl rfl
    · -- Of the known commands only an evaluation is looked into, and whatever else there is can be read.
      split at broken
      · next named =>
        split at broken
        · cases broken
        · next textless => exact .inr ⟨named, _, textless⟩
      · cases broken
      · cases broken
      · cases broken
  · rintro (rfl | ⟨named, fault, textless⟩)
    · exact ⟨_, rfl⟩
    · refine ⟨fault, ?_⟩
      unfold Request.read
      split
      · cases named
      · rw [named]
        simp only [textless]

end Host

/-- What a step is to be answered with that brings a line without a command, or with one that the host does not
know. -/
def HostStep.strayAnswer? : HostStep → Option String
  | .line text =>
    match Json.read? Json.strictDialect text with
    | some brought => Host.strayAnswer? brought.rounded
    | none => some (Host.malformedText text)
  | .command brought => Host.strayAnswer? brought.rounded
  | .act _ | .schedule _ | .close => none

/-! ## What breaks a host -/

namespace Host

variable {host : Host}

/-- Whether an event breaks a host: a command cannot be read, or the interpreter throws out of an evaluation that
is not over. -/
def Breaks (host : Host) : HostEvent → Prop
  | .start command =>
    command = .null ∨ command.get? "op" = some (.str "eval") ∧ ∃ fault, codeOf command = .error fault
  | .comeBack thrown => thrown ≠ none ∧ host.isBusy = true
  | .arrive _ | .garble _ | .close | .plan _ | .act _ | .deliver | .drop _ | .surface => False

@[simp] theorem breakdown_deliver (host : Host) : host.deliver.breakdown = host.breakdown :=
  congrArg Desk.breakdown host.desk_deliver

@[simp] theorem breakdown_surfaceAll (host : Host) : host.surfaceAll.breakdown = host.breakdown :=
  congrArg Desk.breakdown host.desk_surfaceAll

@[simp] theorem waiting_surfaceAll (host : Host) : host.surfaceAll.waiting = host.waiting :=
  congrArg Desk.waiting host.desk_surfaceAll

theorem breakdown_begin_eq_none (host : Host) (command : Json) :
    (host.begin command).breakdown = none ↔ host.breakdown = none ∧ ¬ host.Breaks (.start command) := by
  rw [Breaks, ← read_eq_broken_iff, begin, handle]
  cases Request.read command with
  | evaluate | exit | unknown => simp [ask, exit, sendOutput, send]
  | finish =>
    have same : host.finish.breakdown = host.breakdown := congrArg Desk.breakdown host.desk_finish
    simp [same]
  | broken => simp

/-- A host is not broken after an event if it was not before and the event does not break it. -/
theorem breakdown_happen_eq_none (host : Host) (event : HostEvent) :
    (host.happen event).breakdown = none ↔ host.breakdown = none ∧ ¬ host.Breaks event := by
  cases event with
  | start command => exact host.popped.breakdown_begin_eq_none command
  | comeBack thrown =>
    rw [happen, comeBack, Breaks]
    dsimp only
    cases host.isBusy with
    | false => simp
    | true => simp [Option.or_eq_none_iff, and_comm]
  | act action => simp [happen, breakdown_act, Breaks]
  | deliver | surface => simp [happen, Breaks]
  | arrive | garble | close | plan | drop => simp [happen, Breaks, sendOutput, send, close, exit, schedule, dropWaiting]

/-- **A host is not broken as long as no event breaks it.** -/
theorem breakdown_after_eq_none (host : Host) (events : List HostEvent) :
    (host.after events).breakdown = none ↔ host.breakdown = none ∧
      ∀ before event, before ++ [event] <+: events → ¬ (host.after before).Breaks event := by
  induction events using List.reverseRecOn with
  | nil => simp
  | append_singleton events last ih =>
    rw [after_append, after_cons, after_nil, breakdown_happen_eq_none, ih]
    constructor
    · rintro ⟨⟨running, earlier⟩, now⟩
      refine ⟨running, fun before event inside => ?_⟩
      -- A moment is the last one, or one of the events before it.
      rcases List.prefix_concat_iff.mp inside with whole | inside
      · obtain ⟨rfl, same⟩ := List.append_inj' whole rfl
        obtain rfl := List.singleton_inj.mp same
        exact now
      · exact earlier before event inside
    · rintro ⟨running, all⟩
      exact ⟨⟨running, fun before event inside => all before event (inside.trans (List.prefix_append _ _))⟩,
        all events last (List.prefix_refl _)⟩

end Host

/-! ## A host with strays and one without -/

/-- Some messages are other ones with answers among them, each an output of its own. -/
inductive Spliced : List String → List Message → List Message → Prop where
  /-- Nothing was sent. -/
  | nil : Spliced [] [] []
  /-- Both sent the same message. -/
  | both {answers : List String} {messages others : List Message} (message : Message)
      (spliced : Spliced answers messages others) : Spliced answers (messages ++ [message]) (others ++ [message])
  /-- The one sent an answer. -/
  | answer {answers : List String} {messages others : List Message} (line : ToldLine) (text : String)
      (spliced : Spliced answers messages others) :
      Spliced (answers ++ [text]) (messages ++ [.output line text]) others

theorem Spliced.append {answers : List String} {messages others : List Message}
    (spliced : Spliced answers messages others) (news : List Message) :
    Spliced answers (messages ++ news) (others ++ news) := by
  induction news generalizing messages others with
  | nil => simpa using spliced
  | cons message news ih => simpa using ih (spliced.both message)

/-- A host is the same as another one, but for some answers that it sent and for what waits. -/
structure SameBut (answers : List String) (host without : Host) : Prop where
  /-- They agree in everything else. -/
  bare : host.bare = without.bare
  /-- What the host sent are the messages of the other one and the answers. -/
  sent : Spliced answers host.sent without.sent

namespace SameBut

variable {answers : List String} {host without : Host}

/-- What can be done whatever was sent before keeps two hosts together. -/
theorem map (alike : SameBut answers host without) (move : Host → Host)
    (same : ∀ host waiting sent, move (Host.behind host waiting sent) = (move host).behind waiting sent) :
    SameBut answers (move host) (move without) := by
  obtain ⟨bare, news, sent, others⟩ := Host.exists_news move same alike.bare
  refine ⟨bare, ?_⟩
  rw [sent, others]
  exact alike.sent.append news

/-- What waits is of no account. -/
theorem keeping (alike : SameBut answers host without) (waiting others : List Json) :
    SameBut answers (host.keeping waiting) (without.keeping others) :=
  ⟨alike.bare, alike.sent⟩

/-- The one host sends an answer. -/
theorem answer (alike : SameBut answers host without) (text : String) :
    SameBut (answers ++ [text]) (host.sendOutput text) without :=
  ⟨alike.bare, alike.sent.answer host.currentLine text⟩

theorem breakdown (alike : SameBut answers host without) : host.breakdown = without.breakdown :=
  (congrArg Host.breakdown alike.bare : host.bare.breakdown = without.bare.breakdown)

theorem isBusy (alike : SameBut answers host without) : host.isBusy = without.isBusy :=
  (congrArg Host.isBusy alike.bare : host.bare.isBusy = without.bare.isBusy)

end SameBut

namespace Host

variable {host without : Host} {answers : List String}

/-- While an evaluation is not over, all commands wait. -/
theorem advance_of_busy (running : host.breakdown = none) (busy : host.isBusy = true) (commands : List Json) :
    host.advance commands = host.keeping commands := by
  cases commands with
  | nil => rfl
  | cons command commands =>
    rw [advance_cons, running]
    exact if_pos busy

/-- If no evaluation is going on, the first command is carried out, and the others behind it unless it breaks the
host. -/
theorem advance_of_idle (running : host.breakdown = none) (idle : host.isBusy = false) {command : Json}
    {commands : List Json} (goesOn : ((host.keeping commands).handle command).breakdown = none) :
    host.advance (command :: commands) = ((host.keeping commands).handle command).deliver.advance commands := by
  rw [advance_cons, running]
  dsimp only
  rw [idle, if_neg Bool.false_ne_true, breakdown_deliver, goesOn]

/-- What broke a host stays with it. -/
theorem breakdown_of_advance {commands : List Json} (running : (host.advance commands).breakdown = none) :
    host.breakdown = none := by
  cases commands with
  | nil => exact running
  | cons command commands =>
    cases broken : host.breakdown with
    | none => rfl
    | some reason =>
      rw [advance_cons, broken] at running
      exact absurd (broken.symm.trans running) (by simp)

/-- A command that was carried out did not break the host if the host is not broken afterwards. -/
theorem goesOn_of_advance (idle : host.isBusy = false) {command : Json} {commands : List Json}
    (running : (host.advance (command :: commands)).breakdown = none) :
    ((host.keeping commands).handle command).breakdown = none := by
  have goes : host.breakdown = none := breakdown_of_advance running
  rw [advance_cons, goes] at running
  dsimp only at running
  rw [idle, if_neg Bool.false_ne_true] at running
  rw [← breakdown_deliver]
  cases broken : ((host.keeping commands).handle command).deliver.breakdown with
  | none => rfl
  | some reason =>
    rw [broken] at running
    exact absurd (broken.symm.trans running) (by simp)

/-- A stray is answered by one output, and nothing else comes of it. -/
theorem deliver_handle_stray (quiet : host.Quiet) {command : Json} (stray : knows command = false)
    (running : (host.handle command).breakdown = none) :
    (host.handle command).deliver = host.sendOutput (unknownText (command.get? "op")) := by
  have something : command ≠ .null := by
    rintro rfl
    cases running
  have same : host.handle command = host.sendOutput (unknownText (command.get? "op")) := by
    rw [handle, read_of_not_knows stray something]
  rw [same, (quiet.sendOutput _).deliver_eq]

/-- **Commands are carried out as if no stray were among them**, up to the first breakdown. -/
theorem sameBut_advance (alike : SameBut answers host without) (quiet : host.Quiet) (commands : List Json)
    (running : (host.advance commands).breakdown = none) :
    ∃ given, SameBut (answers ++ given) (host.advance commands) (without.advance (commands.filter knows)) ∧
      given ++ (host.advance commands).waiting.filterMap strayAnswer? = commands.filterMap strayAnswer? ∧
      (without.advance (commands.filter knows)).waiting = (host.advance commands).waiting.filter knows := by
  induction commands generalizing host without answers with
  | nil => exact ⟨[], by simpa using alike.keeping [] [], rfl, rfl⟩
  | cons command commands ih =>
    have goes : host.breakdown = none := breakdown_of_advance running
    have others : without.breakdown = none := alike.breakdown.symm.trans goes
    cases busy : host.isBusy with
    | true =>
      rw [advance_of_busy goes busy, advance_of_busy others (alike.isBusy.symm.trans busy)]
      exact ⟨[], by simpa using alike.keeping _ _, rfl, rfl⟩
    | false =>
      have idle : without.isBusy = false := alike.isBusy.symm.trans busy
      have goesOn := goesOn_of_advance busy running
      rw [advance_of_idle goes busy goesOn] at running ⊢
      have still := quiet.keeping commands
      cases known : knows command with
      | true =>
        -- Both carry out the command.
        have handled := (alike.keeping commands (commands.filter knows)).map (handle · command)
          fun _ _ _ => handle_behind ..
        have goesToo := handled.breakdown.symm.trans goesOn
        rw [List.filter_cons_of_pos known, List.filterMap_cons, strayAnswer?_of_knows known,
          advance_of_idle others idle goesToo]
        exact ih (handled.map deliver deliver_behind) (quiet_deliver _) running
      | false =>
        -- Only the one has the stray, and sends its answer.
        rw [deliver_handle_stray still known goesOn] at running ⊢
        rw [List.filter_cons_of_neg (by simp [known]), List.filterMap_cons, strayAnswer?_of_not_knows known]
        have answered : SameBut _ ((host.keeping commands).sendOutput _) without :=
          (alike.keeping commands without.waiting).answer (unknownText (command.get? "op"))
        obtain ⟨given, together, all, waiting⟩ :=
          ih answered (still.sendOutput _) running
        exact ⟨unknownText (command.get? "op") :: given, by simpa using together, congrArg _ all, waiting⟩

/-- Commands that wait for an evaluation go on waiting while it is not over. -/
theorem advance_waiting (running : host.breakdown = none) (waits : host.WaitsForCause) :
    host.advance host.waiting = host := by
  rcases waits with none | busy
  · have same : host.keeping [] = host := by
      rw [keeping, ← none]
    rw [none]
    exact same
  · exact advance_of_busy running busy host.waiting

end Host

/-- A host passed over some strays: it did the same as without them, it answered them, each once, and those that it
did not answer wait. -/
structure PassedOver (strays answers : List String) (host without : Host) : Prop
    extends SameBut answers host without where
  /-- Without the strays, the commands wait that the host knows. -/
  waiting : without.waiting = host.waiting.filter Host.knows
  /-- The answers that were sent and those to what waits are the answers to all strays. -/
  answered : (answers ++ host.waiting.filterMap Host.strayAnswer?).Perm strays

namespace Host

variable {host without : Host} {answers strays : List String}

/-- Two hosts that are the same but for some answers carry on together with the commands that wait. -/
theorem exists_passedOver_advance (alike : SameBut answers host without) (quiet : host.Quiet) {commands : List Json}
    (due : (answers ++ commands.filterMap strayAnswer?).Perm strays)
    (running : (host.advance commands).surfaceAll.breakdown = none) :
    ∃ given, PassedOver strays (answers ++ given) (host.advance commands).surfaceAll
      (without.advance (commands.filter knows)).surfaceAll := by
  rw [breakdown_surfaceAll] at running
  obtain ⟨given, together, all, waiting⟩ := sameBut_advance alike quiet commands running
  refine ⟨given, together.map surfaceAll surfaceAll_behind, ?_, ?_⟩
  · rw [waiting_surfaceAll, waiting_surfaceAll, waiting]
  · rwa [waiting_surfaceAll, List.append_assoc, all]

end Host

namespace PassedOver

open Host

variable {host without : Host} {answers strays : List String}

/-- What can be done whatever was sent before and whatever waits keeps two hosts together. -/
theorem map (passed : PassedOver strays answers host without) (move : Host → Host)
    (same : ∀ host waiting sent, move (Host.behind host waiting sent) = (move host).behind waiting sent)
    (keeps : ∀ host, (move host).waiting = host.waiting) :
    PassedOver strays answers (move host) (move without) := by
  refine ⟨passed.toSameBut.map move same, ?_, ?_⟩
  · rw [keeps, keeps, passed.waiting]
  · rw [keeps]
    exact passed.answered

/-- A command that comes is passed over if it is a stray. -/
theorem take (passed : PassedOver strays answers host without) (rests : host.AtRest)
    (restsToo : without.AtRest) (waits : without.WaitsForCause) (brought : Json)
    (running : (host.take brought).breakdown = none) :
    ∃ given, PassedOver (strays ++ (strayAnswer? brought.rounded).toList) (answers ++ given) (host.take brought)
      (if (strayAnswer? brought.rounded).isNone then without.take brought else without) := by
  have due : (answers ++ (host.waiting ++ [brought.rounded]).filterMap strayAnswer?).Perm
      (strays ++ (strayAnswer? brought.rounded).toList) := by
    rw [List.filterMap_append, ← List.append_assoc]
    refine (passed.answered.append_right _).trans (List.Perm.of_eq ?_)
    cases answer : strayAnswer? brought.rounded <;> simp [answer]
  have goes : without.breakdown = none :=
    passed.breakdown.symm.trans (breakdown_of_advance ((breakdown_surfaceAll _).symm.trans running))
  obtain ⟨given, together⟩ := exists_passedOver_advance passed.toSameBut rests.toQuiet due running
  refine ⟨given, ?_⟩
  cases known : knows brought.rounded with
  | true =>
    rw [strayAnswer?_of_knows known] at together ⊢
    rw [List.filter_append, ← passed.waiting, List.filter_cons_of_pos known] at together
    exact together
  | false =>
    -- The stray is all that came, and without it nothing more can be done than before.
    rw [strayAnswer?_of_not_knows known] at together ⊢
    rw [List.filter_append, ← passed.waiting, List.filter_cons_of_neg (by simp [known]), List.filter_nil,
      List.append_nil, advance_waiting goes waits, restsToo.surfaceAll_eq] at together
    exact together

/-- A line that is no command is answered at once, also when other strays wait. -/
theorem garble (passed : PassedOver strays answers host without) (text : List Char) :
    PassedOver (strays ++ [malformedText text]) (answers ++ [malformedText text])
      (host.sendOutput (malformedText text)) without := by
  refine ⟨passed.toSameBut.answer _, passed.waiting, ?_⟩
  have answered := passed.answered.append_right [malformedText text]
  refine List.Perm.trans ?_ answered
  rw [List.append_assoc, List.append_assoc]
  exact List.perm_append_comm.append_left answers

/-- What the interpreter does between the commands it does at both. -/
theorem observeAll (passed : PassedOver strays answers host without) (actions : List Action)
    (running : (host.observeAll actions).1.breakdown = none) :
    ∃ given, PassedOver strays (answers ++ given) (host.observeAll actions).1 (without.observeAll actions).1 := by
  have acted := (passed.toSameBut.map (fun host => (host.actAll actions).1)
    fun host waiting sent => by rw [actAll_behind]).map deliver deliver_behind
  -- The interpreter and the delivery leave the commands waiting, which may then go on.
  have same (host : Host) : (host.actAll actions).1.deliver.waiting = host.waiting := by
    rw [waiting_deliver]
    exact actAll_keeps Host.waiting waiting_act actions host
  have due : (answers ++ (host.actAll actions).1.deliver.waiting.filterMap strayAnswer?).Perm strays := by
    rw [same]
    exact passed.answered
  have filtered : (host.actAll actions).1.deliver.waiting.filter knows =
      (without.actAll actions).1.deliver.waiting := by
    rw [same, same, passed.waiting]
  obtain ⟨given, together⟩ := exists_passedOver_advance acted (quiet_deliver _) due running
  rw [filtered] at together
  exact ⟨given, together⟩

/-- **A step is passed over if it brings a stray**, and is the same step otherwise. -/
theorem step (passed : PassedOver strays answers host without) (rests : host.AtRest)
    (restsToo : without.AtRest) (waits : without.WaitsForCause) (step : HostStep)
    (running : (host.step step).breakdown = none) :
    ∃ given, PassedOver (strays ++ step.strayAnswer?.toList) (answers ++ given) (host.step step)
      (if step.strayAnswer?.isNone then without.step step else without) := by
  cases step with
  | line text =>
    rw [Host.step, takeLine] at running ⊢
    rw [HostStep.strayAnswer?, Host.step, takeLine]
    cases read : Json.read? Json.strictDialect text with
    | some brought =>
      rw [read] at running
      exact passed.take rests restsToo waits brought running
    | none => exact ⟨[malformedText text], passed.garble text⟩
  | command brought => exact passed.take rests restsToo waits brought running
  | act actions =>
    obtain ⟨given, together⟩ := passed.observeAll actions running
    exact ⟨given, by simpa [HostStep.strayAnswer?, Host.step] using together⟩
  | schedule actions =>
    have planned := passed.map (schedule · actions) (fun _ _ _ => rfl) fun _ => rfl
    exact ⟨[], by simpa [HostStep.strayAnswer?, Host.step] using planned⟩
  | close =>
    have closed := passed.map close (fun _ _ _ => rfl) fun _ => rfl
    exact ⟨[], by simpa [HostStep.strayAnswer?, Host.step] using closed⟩

end PassedOver

namespace Host

variable {host : Host}

theorem steps_append (host : Host) (history others : List HostStep) :
    host.steps (history ++ others) = (host.steps history).steps others := List.foldl_append

/-- Between the steps of a history the interpreter has come back. -/
theorem asking_steps (quiet : host.asking = false) (history : List HostStep) :
    (host.steps history).asking = false := by
  induction history generalizing host with
  | nil => exact quiet
  | cons step history ih => exact ih (step_spec quiet step).2.2

/-- What broke a host stays with it, whatever happens. -/
theorem breakdown_of_step (quiet : host.asking = false) {step : HostStep}
    (running : (host.step step).breakdown = none) : host.breakdown = none := by
  rw [← (step_spec quiet step).1] at running
  exact ((breakdown_after_eq_none _ _).mp running).1

/-- **A host that is not broken passed over all strays.** -/
theorem exists_passedOver (version : String) (setup : HostSetup) (history : List HostStep)
    (running : ((start version setup).steps history).breakdown = none) :
    ∃ answers, PassedOver (history.filterMap HostStep.strayAnswer?) answers ((start version setup).steps history)
      ((start version setup).steps (history.filter (·.strayAnswer?.isNone))) := by
  induction history using List.reverseRecOn with
  | nil => exact ⟨[], ⟨rfl, .both _ .nil⟩, rfl, .refl _⟩
  | append_singleton history step ih =>
    rw [steps_append] at running ⊢
    -- A host that is not broken after the last step was not broken before it.
    have goes := breakdown_of_step (asking_steps rfl history) running
    obtain ⟨answers, passed⟩ := ih goes
    have rests := atRest_start version setup
    obtain ⟨given, together⟩ := passed.step (rests.steps history) (rests.steps _)
      (waits_steps (.inl rfl) _) step running
    refine ⟨answers ++ given, ?_⟩
    rw [List.filterMap_append, List.filter_append, steps_append]
    cases answer : step.strayAnswer? with
    | none => simpa [answer, steps] using together
    | some text => simpa [answer, steps] using together

/-- What comes to a broken host is not carried out: it only reports once more what broke it. -/
theorem take_of_breakdown (rests : host.AtRest) {reason : Value} (broken : host.breakdown = some reason)
    (command : Json) : host.take command = (host.keeping []).sendSurfaced reason := by
  obtain ⟨first, others, same⟩ : ∃ first others, host.waiting ++ [command.rounded] = first :: others :=
    List.exists_cons_of_ne_nil (by simp)
  have thrown : (host.dropWaiting reason).unhandled = [reason] := by
    rw [dropWaiting, rests.handled]
    rfl
  rw [take, same, advance_cons, broken]
  dsimp only
  rw [surfaceAll, thrown, List.foldl_cons, List.foldl_nil]
  simp [dropWaiting, keeping, sendSurfaced, sendOutput, send, surfaceText, rests.handled]

end Host

end Marginalia
