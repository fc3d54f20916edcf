import Marginalia.Proofs.Host.Buffering
import Marginalia.Proofs.Host.Ledger

/-! # When a host is drained
What a host keeps is what its account says (`Ledger.Accounts`), and every move keeps it so. Hence the host
says that it is drained at the first moment at which the end of the input is noted and nothing reported is
missing (`host_drains_at_first_moment`). -/

namespace Marginalia

open Script

/-! ## Sending what is due -/

namespace Host

/-- Send some messages. -/
def sendAll (host : Host) (messages : List Message) : Host := { host with sent := host.sent ++ messages }

/-- What fails where a settled promise is to answer. -/
def faultTo (host : Host) : Settlement → Option Value
  | .fulfilled _ => none
  | .rejected reason =>
    match host.describer.ofThrown reason with
    | .ok _ => none
    | .error fault => some fault
  | .unreadable _ thrown => some thrown

/-- Sending an answer sends its message, or leaves what failed unhandled. -/
theorem sendSettlement_eq (host : Host) (line : ToldLine) (settlement : Settlement) :
    host.sendSettlement line settlement =
      { host.sendAll (host.answerTo line settlement).toList with
        unhandled := host.unhandled ++ (host.faultTo settlement).toList } := by
  cases settlement with
  | fulfilled value =>
    rw [sendSettlement, answerTo, faultTo]
    split <;> simp [sendAll, sendValue, send]
  | rejected reason =>
    rw [sendSettlement, answerTo, faultTo]
    cases host.describer.ofThrown reason <;> simp [sendAll, send, Except.toOption]
  | unreadable => simp [sendSettlement, answerTo, faultTo, sendAll]

/-- Sending the answers that are due sends their messages, in their order. -/
theorem foldl_sendSettlement (host : Host) (due : List (ToldLine × Settlement)) :
    due.foldl (fun host (line, settlement) => host.sendSettlement line settlement) host =
      { host.sendAll (due.filterMap fun answer => host.answerTo answer.1 answer.2) with
        unhandled := host.unhandled ++ due.filterMap fun answer => host.faultTo answer.2 } := by
  induction due generalizing host with
  | nil => simp [sendAll]
  | cons first due ih =>
    obtain ⟨line, settlement⟩ := first
    rw [List.foldl_cons, ih]
    dsimp only
    rw [sendSettlement_eq]
    -- What a promise answers depends on how values are described, and nothing that is sent changes that.
    have answers : (due.filterMap fun answer => { host.sendAll (host.answerTo line settlement).toList with
        unhandled := host.unhandled ++ (host.faultTo settlement).toList }.answerTo answer.1 answer.2) =
          due.filterMap fun answer => host.answerTo answer.1 answer.2 := rfl
    have faults : (due.filterMap fun answer => { host.sendAll (host.answerTo line settlement).toList with
        unhandled := host.unhandled ++ (host.faultTo settlement).toList }.faultTo answer.2) =
          due.filterMap fun answer => host.faultTo answer.2 := rfl
    rw [answers, faults, List.filterMap_cons, List.filterMap_cons]
    dsimp only
    cases host.answerTo line settlement <;> cases host.faultTo settlement <;> simp [sendAll]

/-- The host when the reports that are due are sent, before it may say that it is drained. -/
def answered (host : Host) : Host :=
  { host.sendAll (host.due.filterMap fun answer => host.answerTo answer.1 answer.2) with
    due := []
    pending := host.pending - host.due.length
    unhandled := host.unhandled ++ host.due.filterMap fun answer => host.faultTo answer.2 }

theorem sendDue_eq (host : Host) : host.sendDue = host.answered.endIfDrained := by
  rw [sendDue, foldl_sendSettlement]
  rfl

@[simp] theorem drained_finished (host : Host) : host.finished.drained = host.drained := by
  rw [finished]
  split <;> rfl

end Host

/-- Where one promise stands is of no account for another one. -/
theorem Script.Promises.state_setState_of_ne (promises : Promises) {id other : PromiseId}
    (different : other ≠ id) (state : PromiseState) :
    (promises.setState id state).state other = promises.state other := by
  have found : (promises.filter (·.1 != id)).find? (·.1 == other) = promises.find? (·.1 == other) := by
    rw [List.find?_filter]
    congr 1
    funext entry
    by_cases same : entry.1 = other <;> simp [same, different]
  simp [Promises.state, setState, different.symm, found]

theorem Script.Promises.settlement?_setState_of_ne (promises : Promises) {id other : PromiseId}
    (different : other ≠ id) (state : PromiseState) :
    (promises.setState id state).settlement? other = promises.settlement? other := by
  rw [settlement?, state_setState_of_ne promises different, settlement?]

namespace Ledger

/-! ## What an account says of a host -/

/-- An account says what a host keeps. -/
structure Accounts (version : String) (host : Host) (ledger : Ledger) : Prop where
  /-- The messages that were sent are those that the account tells of. -/
  sent : host.sent = .ready version :: messagesOf ledger.journal
  /-- The promises to report are those that are waited for. -/
  awaited : host.awaited = ledger.awaited.map (·.2)
  /-- The reports that are due are those of the account. -/
  due : host.due = ledger.due.map (·.2)
  /-- As many reports are missing as values are waited for. -/
  pending : host.pending = ledger.missing.length
  /-- No promise that is waited for is settled. -/
  unsettled : ∀ entry ∈ ledger.awaited, host.promises.settlement? entry.2.1 = none
  /-- The end is noted by both. -/
  ended : host.ended = true ↔ .ended ∈ ledger.journal
  /-- The host said that it is drained if the account tells so. -/
  drained : host.drained = true ↔ .drained ∈ messagesOf ledger.journal

/-- The account of a host that has nothing to say for now. -/
structure Balances (version : String) (host : Host) (ledger : Ledger) : Prop where
  /-- It says what the host keeps. -/
  accounts : ledger.Accounts version host
  /-- It holds together. -/
  sound : ledger.Sound
  /-- The host does not have to say that it is drained. -/
  paid : ¬ Owes ledger.journal

variable {version : String} {host other : Host} {ledger : Ledger}

/-- The account of a host that is up. -/
theorem balances_start (version : String) (setup : HostSetup) :
    empty.Balances version (.start version setup) where
  accounts := ⟨rfl, rfl, rfl, rfl, nofun, by simp [Host.start, empty], by simp [Host.start, empty]⟩
  sound := sound_empty
  paid owes := absurd owes.1.1 List.not_mem_nil

/-- What a host keeps besides its messages and the values it waits for is of no account. -/
theorem Accounts.of_same (accounts : ledger.Accounts version host) (sent : other.sent = host.sent)
    (awaited : other.awaited = host.awaited) (due : other.due = host.due)
    (pending : other.pending = host.pending) (promises : other.promises = host.promises)
    (ended : other.ended = host.ended) (drained : other.drained = host.drained) :
    ledger.Accounts version other where
  sent := sent.trans accounts.sent
  awaited := awaited.trans accounts.awaited
  due := due.trans accounts.due
  pending := pending.trans accounts.pending
  unsettled := by rw [promises]; exact accounts.unsettled
  ended := by rw [ended, accounts.ended]
  drained := by rw [drained, accounts.drained]

/-- The journal is complete when the end is noted and no report is missing. -/
theorem complete_iff (accounts : ledger.Accounts version host) (sound : ledger.Sound) :
    Complete ledger.journal ↔ host.ended = true ∧ host.pending = 0 := by
  rw [sound.complete_iff, accounts.ended, accounts.pending, List.length_eq_zero_iff]

/-- A message is sent. -/
theorem Accounts.send (accounts : ledger.Accounts version host) {message : Message}
    (other : message ≠ .drained) : (ledger.write (.sent message)).Accounts version (host.send message) where
  sent := by simp [accounts.sent]
  awaited := accounts.awaited
  due := accounts.due
  pending := accounts.pending
  unsettled := accounts.unsettled
  ended := by simpa [Host.send] using accounts.ended
  drained := by simpa [Host.send, Ne.symm other] using accounts.drained

/-- A message is sent. -/
theorem Balances.send (balances : ledger.Balances version host) {message : Message}
    (other : message ≠ .drained) : (ledger.write (.sent message)).Balances version (host.send message) where
  accounts := balances.accounts.send other
  sound := balances.sound.write_sent balances.paid other
  paid := not_owes_concat_sent balances.paid message

/-- At the end of the input or of the answers that are due, the host says that it is drained if it has to.
-/
theorem balances_endIfDrained (accounts : ledger.Accounts version host) (sound : ledger.Sound) :
    (noteDrained host host.endIfDrained ledger).Balances version host.endIfDrained := by
  by_cases drains : host.ended = true ∧ host.pending = 0 ∧ host.drained = false
  · have spoken : host.endIfDrained = { host with drained := true }.send .drained := by
      simp [Host.endIfDrained, drains]
    have noted : noteDrained host host.endIfDrained ledger = ledger.write (.sent .drained) := by
      simp [noteDrained, spoken, drains, Host.send]
    have owes : Owes ledger.journal :=
      ⟨(complete_iff accounts sound).mpr ⟨drains.1, drains.2.1⟩, by simp [← accounts.drained, drains.2.2]⟩
    rw [noted, spoken]
    refine ⟨⟨?_, accounts.awaited, accounts.due, accounts.pending, accounts.unsettled, ?_, ?_⟩,
      sound.write rfl ⟨fun _ => owes, fun _ => rfl⟩, not_owes_concat_drained _⟩
    · simp [Host.send, accounts.sent]
    · simpa [Host.send] using accounts.ended
    · simp [Host.send]
  · have silent : host.endIfDrained = host := by
      rw [Host.endIfDrained, if_neg]
      simpa [and_assoc] using drains
    have noted : noteDrained host host ledger = ledger := by simp [noteDrained]
    rw [silent, noted]
    refine ⟨accounts, sound, fun owes => drains ?_⟩
    obtain ⟨ended, pending⟩ := (complete_iff accounts sound).mp owes.1
    have unsaid := mt accounts.drained.mp owes.2
    exact ⟨ended, pending, by simpa using unsaid⟩

/-! ## What a move keeps -/

/-- Where one promise that is not settled stands settles none that is waited for. -/
theorem Accounts.unsettled_setState (accounts : ledger.Accounts version host) {id : PromiseId}
    {state : PromiseState} (itself : (host.promises.setState id state).settlement? id = none)
    {entry : Nat × PromiseId × ToldLine} (member : entry ∈ ledger.awaited) :
    (host.promises.setState id state).settlement? entry.2.1 = none := by
  by_cases same : entry.2.1 = id
  · rw [same, itself]
  · rw [Promises.settlement?_setState_of_ne _ same]
    exact accounts.unsettled entry member

/-- A value is reported. -/
theorem Accounts.report (accounts : ledger.Accounts version host) (line : ToldLine) (value : Value) :
    (noteReport host ledger line value).Accounts version (host.report line value) := by
  have sent : host.sent = .ready version :: messagesOf ledger.writeReport.journal := by
    simp [writeReport, accounts.sent]
  have ended : host.ended = true ↔ .ended ∈ ledger.writeReport.journal := by
    simpa [writeReport] using accounts.ended
  have drained : host.drained = true ↔ .drained ∈ messagesOf ledger.writeReport.journal := by
    simpa [writeReport] using accounts.drained
  -- Whatever is waited for is one value more that is missing.
  have counted {after : Ledger} (more : after.missing.length = ledger.missing.length + 1) :
      host.count.pending = after.missing.length := (congrArg (· + 1) accounts.pending).trans more.symm
  rw [Host.report_eq, noteReport]
  cases taken : host.reception value with
  | silent => exact accounts
  | shown => exact accounts.send (Message.result_ne_drained _ _)
  | due settlement =>
    refine ⟨sent, accounts.awaited, ?_, ?_, accounts.unsettled, ended, drained⟩
    · simp [accounts.due]
    · refine counted ?_
      simp only [length_missing, writeReport, write, List.length_append, List.length_singleton]
      omega
  | awaited id =>
    refine ⟨sent, ?_, accounts.due, ?_, ?_, ended, drained⟩
    · simp [accounts.awaited]
    · refine counted ?_
      simp only [length_missing, writeReport, write, List.length_append, List.length_singleton]
      omega
    · intro entry member
      rcases List.mem_append.mp member with earlier | last
      · exact accounts.unsettled entry earlier
      · rw [List.mem_singleton.mp last]
        exact Host.settlement?_of_reception taken
  | adopted =>
    -- The promise is made for this object and waits for it alone.
    have adopting : host.adopt.promises.settlement? (.made host.made) = none := by
      simp [Host.adopt, Promises.settlement?]
    refine ⟨sent, ?_, accounts.due, ?_, ?_, ended, drained⟩
    · simp [accounts.awaited]
    · refine counted ?_
      simp only [length_missing, writeReport, write, List.length_append, List.length_singleton]
      omega
    · intro entry member
      rcases List.mem_append.mp member with earlier | last
      · exact accounts.unsettled_setState adopting earlier
      · rw [List.mem_singleton.mp last]
        exact adopting

/-- A value is reported that cannot be waited for. -/
theorem Accounts.count (accounts : ledger.Accounts version host) :
    ledger.noteCount.Accounts version host.count where
  sent := by simp [noteCount, writeReport, Host.count, accounts.sent]
  awaited := accounts.awaited
  due := accounts.due
  pending := by
    have pending := accounts.pending
    simp only [Host.count, length_missing, noteCount, writeReport, write, List.length_append,
      List.length_singleton] at pending ⊢
    omega
  unsettled := accounts.unsettled
  ended := by simpa [noteCount, writeReport, Host.count] using accounts.ended
  drained := by simpa [noteCount, writeReport, Host.count] using accounts.drained

/-- Where a promise stands is noted. -/
theorem Accounts.setPromise (accounts : ledger.Accounts version host) (id : PromiseId) (state : PromiseState) :
    (ledger.note host (.setPromise id state)).Accounts version (host.setPromise id state) := by
  have unsettled : (host.promises.setState id state).settlement? id = none →
      ∀ entry ∈ ledger.awaited, (host.promises.setState id state).settlement? entry.2.1 = none :=
    fun itself entry member => accounts.unsettled_setState itself member
  cases state with
  | settled settlement =>
    refine ⟨accounts.sent, ?_, ?_, ?_, ?_, accounts.ended, accounts.drained⟩
    · simp [Host.setPromise, Host.settlePromise, note, noteSettlement, accounts.awaited, List.filter_map,
        Function.comp_def]
    · simp [Host.setPromise, Host.settlePromise, note, noteSettlement, accounts.awaited, accounts.due,
        List.filter_map, Function.comp_def]
    · exact accounts.pending.trans (missing_noteSettlement_perm ledger id settlement).length_eq.symm
    · intro entry member
      obtain ⟨earlier, different⟩ := List.mem_filter.mp member
      have other : entry.2.1 ≠ id := by simpa using different
      exact (Promises.settlement?_setState_of_ne _ other _).trans (accounts.unsettled entry earlier)
  | pending =>
    exact { accounts with unsettled := unsettled (by simp [Promises.settlement?]) }
  | following other =>
    exact { accounts with unsettled := unsettled (by simp [Promises.settlement?]) }
  | adopting =>
    exact { accounts with unsettled := unsettled (by simp [Promises.settlement?]) }

/-- The values that are due answer and are settled. -/
theorem Accounts.answered (accounts : ledger.Accounts version host) :
    (noteAnswers host ledger).Accounts version host.answered := by
  have messages : messagesOf (noteAnswers host ledger).journal =
      messagesOf ledger.journal ++ (ledger.answers host).filterMap (·.2) := by
    have silent : messagesOf ((ledger.due.map (·.1)).map .settled) = [] :=
      List.filterMap_eq_nil_iff.mpr fun happening member => by
        obtain ⟨number, -, rfl⟩ := List.mem_map.mp member
        rfl
    rw [noteAnswers, messagesOf_append, messagesOf_append, silent, List.append_nil, messagesOf, messagesOf,
      List.filterMap_map]
    rfl
  have total := (missing_perm_noteAnswers host ledger).length_eq
  refine ⟨?_, accounts.awaited, rfl, ?_, accounts.unsettled, ?_, ?_⟩
  · rw [messages]
    simp [Host.answered, Host.sendAll, accounts.sent, accounts.due, answers, List.filterMap_map]
  · simp only [Host.answered, accounts.pending, accounts.due, List.length_map, List.length_append] at total ⊢
    omega
  · simpa [Host.answered, Host.sendAll, mem_journal_noteAnswers] using accounts.ended
  · rw [messages, List.mem_append, ← accounts.drained]
    refine ⟨.inl, fun either => either.resolve_right fun member => ?_⟩
    obtain ⟨answer, given, same⟩ := List.mem_filterMap.mp member
    exact ne_drained_of_mem_answers given same

/-- All reports that are due are sent. -/
theorem Balances.sendDue (balances : ledger.Balances version host) :
    (ledger.note host .sendDue).Balances version host.sendDue := by
  rw [note, host.sendDue_eq]
  exact balances_endIfDrained balances.accounts.answered (balances.sound.noteAnswers balances.paid host)

/-- The end of the input is noted. -/
theorem Accounts.finished (accounts : ledger.Accounts version host) :
    (noteEnd host ledger).Accounts version host.finished := by
  have ending : ∀ {host : Host} {ledger : Ledger}, ledger.Accounts version host →
      (ledger.write .ended).Accounts version { host with ended := true } := fun accounts =>
    ⟨by simpa using accounts.sent, accounts.awaited, accounts.due, accounts.pending, accounts.unsettled,
      by simp, by simpa using accounts.drained⟩
  rw [noteEnd, Host.finished]
  split
  · exact ending accounts
  · have cutOff := accounts.send (Message.error_ne_drained host.openLine (Host.cutOffError host.buffer))
    exact ending (cutOff.of_same rfl rfl rfl rfl rfl rfl rfl)

/-- The end of the input is noted. -/
theorem Balances.finish (balances : ledger.Balances version host) :
    (ledger.note host .finish).Balances version host.finish := by
  have noted : ledger.note host .finish =
      noteDrained host.finished host.finished.endIfDrained (noteEnd host ledger) := by
    rw [note, noteDrained, noteDrained, Host.drained_finished, Host.finish_eq]
  rw [noted, Host.finish_eq]
  exact balances_endIfDrained balances.accounts.finished (balances.sound.noteEnd balances.paid host)

/-- **A move keeps the accounts.** -/
theorem Balances.note (balances : ledger.Balances version host) (move : HostMove) :
    (ledger.note host move).Balances version (host.make move) := by
  have same : ∀ {other : Host}, ledger.Accounts version other → ledger.Balances version other :=
    fun accounts => ⟨accounts, balances.sound, balances.paid⟩
  cases move with
  | output text => exact balances.send (Message.output_ne_drained _ _)
  | fail line error => exact balances.send (Message.error_ne_drained _ _)
  | report line value =>
    obtain ⟨sound, paid⟩ := balances.sound.noteReport balances.paid host line value
    exact ⟨balances.accounts.report line value, sound, paid⟩
  | count =>
    obtain ⟨sound, paid⟩ := balances.sound.noteCount balances.paid
    exact ⟨balances.accounts.count, sound, paid⟩
  | setPromise id state =>
    refine ⟨balances.accounts.setPromise id state, ?_, ?_⟩
    · cases state with
      | settled settlement => exact balances.sound.noteSettlement id settlement
      | pending | following | adopting => exact balances.sound
    · cases state <;> exact balances.paid
  | sendDue => exact balances.sendDue
  | finish => exact balances.finish
  | settle number keepsText =>
    refine same ?_
    rw [Host.make, Host.settle]
    split
    · split
      · exact balances.accounts
      · exact balances.accounts.of_same rfl rfl rfl rfl rfl rfl rfl
    · exact balances.accounts
  | ask | comeBack | breakDown | drop | forget | exit | wait | schedule =>
    exact same (balances.accounts.of_same rfl rfl rfl rfl rfl rfl rfl)

/-- **A history keeps the accounts.** -/
theorem Balances.noteAll (balances : ledger.Balances version host) (moves : List HostMove) :
    (noteAll host ledger moves).Balances version (host.makeAll moves) := by
  induction moves generalizing host ledger with
  | nil => exact balances
  | cons move moves ih => exact ih (balances.note move)

end Ledger

/-! ## Between the steps -/

namespace Host

/-- After all reports that are due are sent, none is due. -/
theorem due_deliver (host : Host) : host.deliver.due = [] := by
  rw [deliver, sendDue_eq, endIfDrained]
  split <;> rfl

/-- Carrying out commands leaves no report due. -/
theorem due_advance {host : Host} (nothing : host.due = []) (commands : List Json) :
    (host.advance commands).due = [] := by
  induction commands generalizing host with
  | nil => exact nothing
  | cons command commands ih =>
    rw [advance]
    split
    · exact nothing
    · split
      · exact nothing
      · dsimp only
        split
        · exact due_deliver _
        · exact ih (due_deliver _)

/-- What nothing handled does not concern the reports that are due. -/
theorem due_surfaceAll (host : Host) : host.surfaceAll.due = host.due := by
  have same : ∀ (thrown : List Value) (host : Host), (thrown.foldl sendSurfaced host).due = host.due := by
    intro thrown
    induction thrown with
    | nil => exact fun _ => rfl
    | cons first thrown ih => exact fun host => ih (host.sendSurfaced first)
  exact same host.unhandled host

/-- No step leaves a report due. -/
theorem due_step {host : Host} (nothing : host.due = []) (step : HostStep) : (host.step step).due = [] := by
  cases step with
  | line text =>
    rw [Host.step, takeLine]
    split
    · exact (due_surfaceAll _).trans (due_advance nothing _)
    · exact nothing
  | command command => exact (due_surfaceAll _).trans (due_advance nothing _)
  | act actions => exact (due_surfaceAll _).trans (due_advance (due_deliver _) _)
  | schedule | close => exact nothing

/-- No history leaves a report due. -/
theorem due_steps {host : Host} (nothing : host.due = []) (history : List HostStep) :
    (host.steps history).due = [] := by
  induction history generalizing host with
  | nil => exact nothing
  | cons step history ih => exact ih (due_step nothing step)

end Host

/-! ## The message that the host is drained -/

/-- A host counts the values it waits for, and says that it is drained at the first moment at which the end
of the input is noted and all of them are settled. -/
structure Drains (version : String) (host : Host) (ledger : Ledger) : Prop where
  /-- The messages that were sent, in their order, are those of the journal. -/
  sent : host.sent = .ready version :: messagesOf ledger.journal
  /-- The journal tells of the end of the input just when the host noted it. -/
  ended : host.ended = true ↔ .ended ∈ ledger.journal
  /-- What happens to a value happens once and in its order. -/
  ordered : ∀ before next, before ++ [next] <+: ledger.journal → Follows before next
  /-- The message is sent at most once. -/
  once : ∀ front rest, host.sent = front ++ .drained :: rest → .drained ∉ front
  /-- It is sent right where the journal becomes complete for the first time. -/
  first : ∀ before, before ++ [.sent .drained] <+: ledger.journal ↔
    before <+: ledger.journal ∧ Complete before ∧ ∀ part, part <+: before → Complete part → part = before
  /-- Every value to wait for that was reported before has answered before. -/
  answered : ∀ before, before ++ [.sent .drained] <+: ledger.journal →
    ∀ number, .reported number ∈ before → ∃ message, .answered number message ∈ before
  /-- The values waited for are those that were reported and are not settled, each once. -/
  missing : ledger.missing.Nodup ∧
    ∀ number, number ∈ ledger.missing ↔ .reported number ∈ ledger.journal ∧ .settled number ∉ ledger.journal
  /-- The counter is their number. -/
  pending : host.pending = ledger.missing.length
  /-- The counter is large enough for all reports that are due. -/
  due : host.due.length ≤ host.pending

theorem Ledger.Balances.drains {version : String} {host : Host} {ledger : Ledger}
    (balances : ledger.Balances version host) : Drains version host ledger where
  sent := balances.accounts.sent
  ended := balances.accounts.ended
  ordered before next inside := (balances.sound.regular before next inside).1
  once front rest parts := by
    rw [balances.accounts.sent] at parts
    cases front with
    | nil => exact List.not_mem_nil
    | cons ready front =>
      obtain ⟨rfl, behind⟩ := List.cons.inj parts
      have quiet := balances.sound.regular.drained_once behind
      rw [List.mem_cons, not_or]
      exact ⟨(Message.ready_ne_drained version).symm, quiet⟩
  first before := balances.sound.regular.drained_iff balances.paid before
  answered before inside number reported := balances.sound.regular.answered_of_drained inside reported
  missing := ⟨balances.sound.distinct, balances.sound.mem_missing⟩
  pending := balances.accounts.pending
  due := by
    rw [balances.accounts.pending, balances.accounts.due, Ledger.length_missing, List.length_map]
    omega

/-- **Drained at the first moment.** Whatever commands a host is given, whatever the interpreter does for
them and in whatever order promises are settled, at every moment the host counts the values that it waits
for and says that it is drained at the first moment at which the end is noted and none is missing. Between
the steps only values are missing whose promise is not settled, be it one of the script or one that adopts an
object, and those that threw when they were to be waited for. -/
theorem host_drains_at_first_moment (version : String) (setup : HostSetup) (history : List HostStep) :
    let start := Host.start version setup
    let moves := start.stepsMoves history
    let ledger := Ledger.noteAll start .empty
    start.steps history = start.makeAll moves ∧
      (∀ count, Drains version (start.makeAll (moves.take count)) (ledger (moves.take count))) ∧
      ∀ number ∈ (ledger moves).missing, number ∈ (ledger moves).lost ∨
        ∃ id line, (number, id, line) ∈ (ledger moves).awaited ∧
          (start.steps history).promises.settlement? id = none := by
  intro start moves ledger
  have balances : ∀ some, (ledger some).Balances version (start.makeAll some) :=
    (Ledger.balances_start version setup).noteAll
  have whole : start.steps history = start.makeAll moves := Host.steps_eq_makeAll rfl history
  refine ⟨whole, fun count => (balances _).drains, fun number member => ?_⟩
  have accounts := (balances moves).accounts
  have nothing : (ledger moves).due = [] := by
    have none : (start.steps history).due = [] := Host.due_steps rfl history
    rwa [whole, accounts.due, List.map_eq_nil_iff] at none
  rw [Ledger.missing, nothing, List.map_nil, List.nil_append, List.mem_append, List.mem_map] at member
  rcases member with ⟨⟨_, id, line⟩, waits, rfl⟩ | never
  · refine .inr ⟨id, line, waits, ?_⟩
    rw [whole]
    exact accounts.unsettled _ waits
  · exact .inl never

/-- The end of the input is noted while an object is waited for; the host is drained when that calls back. -/
example :
    let waited := Value.ofMembers .plain [("then", .function "then")]
    let before := (Host.start "v20.11.0" ⟨some 2, ["log"]⟩).steps
      [.schedule [.answer (.value waited)], .command (evalCommand 1 "x"), .command endCommand]
    let after := before.steps [.act [.callBack (.made 0) (.fulfilled (.text "late"))]]
    before.pending = 1 ∧ before.sent.map (·.type?) = [some .ready] ∧
      after.pending = 0 ∧ after.sent.map (·.type?) = [some .ready, some .result, some .drained] := by
  decide +kernel

end Marginalia
