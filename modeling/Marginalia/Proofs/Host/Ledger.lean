import Marginalia.Proofs.Host.Journal
import Marginalia.Proofs.Host.Trace

/-! # Accounts of the values to wait for
Beside its moves a host is given an account of the values that it waits for (`Ledger`): which were
reported, which of them are settled and due to answer, and what happened so far. Of the host the account
takes only what it is told with a move. It holds together (`Ledger.Sound`): the values waited for are those
that were reported and are not settled, and everything happens in its order. -/

namespace Marginalia

open Script

namespace Message

/-- Only the message that the host is drained is of its type. -/
theorem ne_drained {message : Message} (type : message.type? ≠ some .drained) : message ≠ .drained := by
  rintro rfl
  exact type type?_drained

theorem ready_ne_drained (version : String) : ready version ≠ .drained := ne_drained (by simp)

theorem result_ne_drained (line : ToldLine) (value : ExpressionValue) : result line value ≠ .drained :=
  ne_drained (by simp)

theorem error_ne_drained (line : ToldLine) (descriptor : ErrorDescriptor) :
    error line descriptor ≠ .drained :=
  ne_drained (by simp)

theorem output_ne_drained (line : ToldLine) (text : String) : output line text ≠ .drained :=
  ne_drained (by simp)

end Message

namespace Host

/-- The message by which a settled promise answers; a missing value says nothing, nor does anything that cannot be
described. -/
def answerTo (host : Host) (line : ToldLine) : Settlement → Option Message
  | .fulfilled value => if value.isMissing then none else some (.result line (host.describer.ofValue value))
  | .rejected reason => (host.describer.ofThrown reason).toOption.map fun descriptor => .error line descriptor
  | .unreadable .. => none

/-- No answer says that the host is drained. -/
theorem answerTo_ne_drained (host : Host) (line : ToldLine) (settlement : Settlement) :
    host.answerTo line settlement ≠ some .drained := by
  cases settlement with
  | fulfilled value =>
    rw [answerTo]
    split
    · exact nofun
    · exact fun same => Message.result_ne_drained _ _ (Option.some.inj same)
  | rejected reason =>
    intro same
    obtain ⟨descriptor, -, drained⟩ := Option.map_eq_some_iff.mp same
    exact Message.error_ne_drained _ _ drained
  | unreadable => exact nofun

/-- How a value that is reported is taken. -/
inductive Reception where
  /-- There is nothing to say of it. -/
  | silent
  /-- It is sent. -/
  | shown
  /-- It is a promise that is settled, and due to answer. -/
  | due (settlement : Settlement)
  /-- It is a promise to wait for. -/
  | awaited (id : PromiseId)
  /-- It is an object with a method of its own to wait by, and a promise is made that adopts it. -/
  | adopted

/-- How a host takes a value that is reported. -/
def reception (host : Host) : Value → Reception
  | .missing => .silent
  | .promise number =>
    match host.promises.settlement? (.told number) with
    | some settlement => .due settlement
    | none => .awaited (.told number)
  | value => if value.isThenable then .adopted else .shown

/-- A promise that adopts an object is waited for. -/
theorem await_adopt (host : Host) (line : ToldLine) :
    host.adopt.await line (.made host.made) =
      { host.adopt.count with awaited := host.awaited ++ [(.made host.made, line)] } := by
  have unsettled : host.adopt.promises.settlement? (.made host.made) = none := by
    simp [adopt, Promises.settlement?]
  rw [await, unsettled]
  rfl

/-- A host does with a value what it takes it for. -/
theorem report_eq (host : Host) (line : ToldLine) (value : Value) :
    host.report line value = match host.reception value with
      | .silent => host
      | .shown => host.sendValue line value
      | .due settlement => { host.count with due := host.due ++ [(line, settlement)] }
      | .awaited id => { host.count with awaited := host.awaited ++ [(id, line)] }
      | .adopted => { host.adopt.count with awaited := host.awaited ++ [(.made host.made, line)] } := by
  cases value with
  | missing => rfl
  | promise number =>
    rw [report, reception, await]
    cases host.promises.settlement? (.told number) <;> rfl
  | _ =>
    simp only [report, reception, await_adopt]
    split <;> rfl

/-- A promise that a host waits for is not settled. -/
theorem settlement?_of_reception {host : Host} {value : Value} {id : PromiseId}
    (taken : host.reception value = .awaited id) : host.promises.settlement? id = none := by
  unfold reception at taken
  split at taken
  · cases taken
  · split at taken
    · cases taken
    · next unsettled =>
      obtain rfl := Reception.awaited.inj taken
      exact unsettled
  · split at taken <;> cases taken

end Host

/-- An account of the values to wait for. -/
structure Ledger where
  /-- What happened. -/
  journal : List Happening
  /-- How many values to wait for were reported. -/
  reported : Nat
  /-- The values that wait for a promise: their numbers, the promise and the line. -/
  awaited : List (Nat × PromiseId × ToldLine)
  /-- The values that are due to answer: their numbers, the line and the settlement. -/
  due : List (Nat × ToldLine × Settlement)
  /-- The numbers of the values that cannot be waited for, and never answer. -/
  lost : List Nat

namespace Ledger

/-- The account of a host that is up. -/
def empty : Ledger := ⟨[], 0, [], [], []⟩

/-- The numbers of the values that are waited for. -/
def missing (ledger : Ledger) : List Nat :=
  ledger.awaited.map (·.1) ++ (ledger.due.map (·.1) ++ ledger.lost)

theorem length_missing (ledger : Ledger) :
    ledger.missing.length = ledger.awaited.length + (ledger.due.length + ledger.lost.length) := by
  simp [missing]

/-! ## What is noted -/

/-- Note one more happening. -/
def write (ledger : Ledger) (next : Happening) : Ledger := { ledger with journal := ledger.journal ++ [next] }

@[simp] theorem journal_write (ledger : Ledger) (next : Happening) :
    (ledger.write next).journal = ledger.journal ++ [next] := rfl

@[simp] theorem missing_write (ledger : Ledger) (next : Happening) :
    (ledger.write next).missing = ledger.missing := rfl

/-- Note that a value to wait for is reported; it gets the next number. -/
def writeReport (ledger : Ledger) : Ledger :=
  { ledger.write (.reported ledger.reported) with reported := ledger.reported + 1 }

/-- Note that a value is reported. -/
def noteReport (host : Host) (ledger : Ledger) (line : ToldLine) (value : Value) : Ledger :=
  match host.reception value with
  | .silent => ledger
  | .shown => ledger.write (.sent (.result line (host.describer.ofValue value)))
  | .due settlement => { ledger.writeReport with due := ledger.due ++ [(ledger.reported, line, settlement)] }
  | .awaited id => { ledger.writeReport with awaited := ledger.awaited ++ [(ledger.reported, id, line)] }
  | .adopted =>
    { ledger.writeReport with awaited := ledger.awaited ++ [(ledger.reported, .made host.made, line)] }

/-- Note that a value is reported that cannot be waited for. -/
def noteCount (ledger : Ledger) : Ledger := { ledger.writeReport with lost := ledger.lost ++ [ledger.reported] }

/-- Note that a promise is settled: the values that wait for it are due to answer. -/
def noteSettlement (ledger : Ledger) (id : PromiseId) (settlement : Settlement) : Ledger :=
  { ledger with
    awaited := ledger.awaited.filter (·.2.1 != id)
    due := ledger.due ++ (ledger.awaited.filter (·.2.1 == id)).map fun (number, _, line) =>
      (number, line, settlement) }

/-- The answers that are due, with the numbers of the values that give them. -/
def answers (host : Host) (ledger : Ledger) : List (Nat × Option Message) :=
  ledger.due.map fun (number, line, settlement) => (number, host.answerTo line settlement)

/-- Note that all values that are due answer, and then that they are settled. -/
def noteAnswers (host : Host) (ledger : Ledger) : Ledger :=
  { ledger with
    journal := ledger.journal ++ (ledger.answers host).map (fun answer => .answered answer.1 answer.2) ++
      (ledger.due.map (·.1)).map .settled
    due := [] }

/-- Note the end of the input, after the error of a statement that it cuts off. -/
def noteEnd (host : Host) (ledger : Ledger) : Ledger :=
  (if host.buffer.isEmpty then ledger
    else ledger.write (.sent (.error host.openLine (Host.cutOffError host.buffer)))).write .ended

/-- Note that the host says that it is drained, if it did not before and does after. -/
def noteDrained (before after : Host) (ledger : Ledger) : Ledger :=
  if after.drained && !before.drained then ledger.write (.sent .drained) else ledger

/-- Note what happens with a move of a host. -/
def note (host : Host) (ledger : Ledger) : HostMove → Ledger
  | .output text => ledger.write (.sent (.output host.currentLine text))
  | .fail line error => ledger.write (.sent (.error line error))
  | .report line value => noteReport host ledger line value
  | .count => ledger.noteCount
  | .setPromise id (.settled settlement) => ledger.noteSettlement id settlement
  | .sendDue => noteDrained host host.sendDue (noteAnswers host ledger)
  | .finish => noteDrained host host.finish (noteEnd host ledger)
  | .setPromise .. | .ask .. | .settle .. | .comeBack _ | .breakDown _ | .drop _ | .forget | .exit _ |
    .wait _ | .schedule _ => ledger

/-- Note what happens with some moves of a host in order. -/
def noteAll : Host → Ledger → List HostMove → Ledger
  | _, ledger, [] => ledger
  | host, ledger, move :: moves => noteAll (host.make move) (ledger.note host move) moves

/-! ## What holds of an account -/

/-- An account that holds together. -/
structure Sound (ledger : Ledger) : Prop where
  /-- No value is waited for twice. -/
  distinct : ledger.missing.Nodup
  /-- The values waited for are those that were reported and are not settled. -/
  mem_missing : ∀ number, number ∈ ledger.missing ↔
    .reported number ∈ ledger.journal ∧ .settled number ∉ ledger.journal
  /-- Only numbers that are used up were reported. -/
  reported : ∀ number, .reported number ∈ ledger.journal → number < ledger.reported
  /-- No value waited for has answered. -/
  unanswered : ∀ number ∈ ledger.missing, ∀ message, .answered number message ∉ ledger.journal
  /-- Everything happened in its order. -/
  regular : Regular ledger.journal

theorem sound_empty : empty.Sound where
  distinct := List.nodup_nil
  mem_missing := by simp [empty, missing]
  reported := by simp [empty]
  unanswered := by simp [empty, missing]
  regular := regular_nil

variable {ledger after : Ledger}

/-- The journal is complete when the end is noted and no value is waited for. -/
theorem Sound.complete_iff (sound : ledger.Sound) :
    Complete ledger.journal ↔ .ended ∈ ledger.journal ∧ ledger.missing = [] := by
  rw [Complete, List.eq_nil_iff_forall_not_mem]
  refine and_congr_right fun _ => forall_congr' fun number => ?_
  rw [sound.mem_missing, not_and, not_not]

/-- Something that concerns no value is noted. -/
theorem Sound.write (sound : ledger.Sound) {next : Happening} (plain : next.number? = none)
    (drains : next.message? = some .drained ↔ Owes ledger.journal) : (ledger.write next).Sound := by
  have other : ∀ happening : Happening, happening.number? ≠ none →
      (happening ∈ (ledger.write next).journal ↔ happening ∈ ledger.journal) := by
    intro happening numbered
    have different : happening ≠ next := by
      rintro rfl
      exact numbered plain
    simp [different]
  refine ⟨sound.distinct, fun number => ?_, fun number => ?_, fun number member message => ?_, ?_⟩
  · rw [missing_write, other (.reported number) nofun, other (.settled number) nofun]
    exact sound.mem_missing number
  · rw [other (.reported number) nofun]
    exact sound.reported number
  · rw [other (.answered number message) nofun]
    exact sound.unanswered number member message
  · exact sound.regular.concat (follows_of_number?_eq_none plain) drains

/-- A message is noted, as long as the host has nothing else to say. -/
theorem Sound.write_sent (sound : ledger.Sound) (paid : ¬ Owes ledger.journal) {message : Message}
    (other : message ≠ .drained) : (ledger.write (.sent message)).Sound :=
  sound.write rfl ⟨fun drains => absurd (Option.some.inj drains) other, fun owes => absurd owes paid⟩

/-- The end of the input is noted. -/
theorem Sound.noteEnd (sound : ledger.Sound) (paid : ¬ Owes ledger.journal) (host : Host) :
    (noteEnd host ledger).Sound := by
  have ending : ∀ {before : Ledger}, before.Sound → ¬ Owes before.journal → (before.write .ended).Sound :=
    fun sound paid => sound.write rfl ⟨nofun, fun owes => absurd owes paid⟩
  rw [Ledger.noteEnd]
  split
  · exact ending sound paid
  · exact ending (sound.write_sent paid (Message.error_ne_drained _ _)) (not_owes_concat_sent paid _)

/-- A value to wait for is reported, and waited for from then on. -/
theorem Sound.of_report (sound : ledger.Sound) (paid : ¬ Owes ledger.journal)
    (journal : after.journal = ledger.writeReport.journal)
    (reported : after.reported = ledger.writeReport.reported)
    (missing : after.missing.Perm (ledger.reported :: ledger.missing)) :
    after.Sound ∧ ¬ Owes after.journal := by
  have new : .reported ledger.reported ∉ ledger.journal := fun member =>
    Nat.lt_irrefl _ (sound.reported _ member)
  have unanswered : ∀ message, .answered ledger.reported message ∉ ledger.journal := fun message member =>
    new (sound.regular.reported_of_answered member)
  have unsettled : .settled ledger.reported ∉ ledger.journal := fun member =>
    (sound.regular.answered_of_settled member).elim unanswered
  have written : after.journal = ledger.journal ++ [.reported ledger.reported] := journal
  refine ⟨⟨?_, fun number => ?_, fun number member => ?_, fun number member message => ?_, ?_⟩, ?_⟩
  · refine missing.nodup_iff.mpr (List.nodup_cons.mpr ⟨fun member => ?_, sound.distinct⟩)
    exact new ((sound.mem_missing _).mp member).1
  · rw [missing.mem_iff, List.mem_cons, sound.mem_missing, written]
    by_cases same : number = ledger.reported
    · simp [same, unsettled]
    · simp [same]
  · rw [written, List.mem_append, List.mem_singleton] at member
    rw [reported]
    rcases member with earlier | last
    · exact Nat.lt_succ_of_lt (sound.reported number earlier)
    · obtain rfl := Happening.reported.inj last
      exact Nat.lt_succ_self _
  · rw [missing.mem_iff, List.mem_cons] at member
    rw [written]
    rcases member with rfl | earlier
    · simpa using unanswered message
    · simpa using sound.unanswered number earlier message
  · rw [written]
    exact sound.regular.concat_other paid new nofun
  · have told : .reported ledger.reported ∈ after.journal := by simp [written]
    exact not_owes_of_missing told (by simpa [written] using unsettled)

/-- In which order the values are waited for is of no account. -/
theorem Sound.of_perm (sound : ledger.Sound) (journal : after.journal = ledger.journal)
    (reported : after.reported = ledger.reported) (missing : after.missing.Perm ledger.missing) :
    after.Sound where
  distinct := missing.nodup_iff.mpr sound.distinct
  mem_missing number := by rw [missing.mem_iff, journal, sound.mem_missing]
  reported number := by
    rw [journal, reported]
    exact sound.reported number
  unanswered number member message := by
    rw [journal]
    exact sound.unanswered number (missing.mem_iff.mp member) message
  regular := by
    rw [journal]
    exact sound.regular

/-- A number among those that are due or lost is one more that is missing. -/
theorem perm_reported (ledger : Ledger) :
    (ledger.awaited.map (·.1) ++ (ledger.due.map (·.1) ++ ledger.reported :: ledger.lost)).Perm
      (ledger.reported :: ledger.missing) :=
  (List.perm_middle.append_left _).trans List.perm_middle

/-- A value is reported. -/
theorem Sound.noteReport (sound : ledger.Sound) (paid : ¬ Owes ledger.journal) (host : Host)
    (line : ToldLine) (value : Value) :
    (noteReport host ledger line value).Sound ∧ ¬ Owes (noteReport host ledger line value).journal := by
  unfold Ledger.noteReport
  cases host.reception value with
  | silent => exact ⟨sound, paid⟩
  | shown => exact ⟨sound.write_sent paid (Message.result_ne_drained _ _), not_owes_concat_sent paid _⟩
  | due settlement =>
    refine sound.of_report paid rfl rfl ?_
    simpa [missing, writeReport, Ledger.write] using ledger.perm_reported
  | awaited | adopted =>
    refine sound.of_report paid rfl rfl ?_
    simp [missing, writeReport, Ledger.write]

/-- A value is reported that cannot be waited for. -/
theorem Sound.noteCount (sound : ledger.Sound) (paid : ¬ Owes ledger.journal) :
    ledger.noteCount.Sound ∧ ¬ Owes ledger.noteCount.journal := by
  refine sound.of_report paid rfl rfl (List.Perm.trans ?_ ledger.perm_reported)
  exact ((List.perm_append_singleton _ _).append_left _).append_left _

/-- The values that are released by a settlement go behind those that are due. -/
theorem perm_of_released {awaited kept released : List Nat} (parts : (released ++ kept).Perm awaited)
    (due lost : List Nat) : (kept ++ (due ++ (released ++ lost))).Perm (awaited ++ (due ++ lost)) := by
  have first := (List.perm_append_comm_assoc due released lost).append_left kept
  have second := List.perm_append_comm_assoc kept released (due ++ lost)
  have third := parts.append_right (due ++ lost)
  rw [List.append_assoc] at third
  exact (first.trans second).trans third

/-- Values that become due are still waited for. -/
theorem missing_noteSettlement_perm (ledger : Ledger) (id : PromiseId) (settlement : Settlement) :
    (ledger.noteSettlement id settlement).missing.Perm ledger.missing := by
  have parts := (List.filter_append_perm (·.2.1 == id) ledger.awaited).map (·.1)
  rw [List.map_append] at parts
  simpa [missing, Ledger.noteSettlement, Function.comp_def, bne] using
    perm_of_released parts (ledger.due.map (·.1)) ledger.lost

/-- A promise is settled. -/
theorem Sound.noteSettlement (sound : ledger.Sound) (id : PromiseId) (settlement : Settlement) :
    (ledger.noteSettlement id settlement).Sound :=
  sound.of_perm rfl rfl (missing_noteSettlement_perm ledger id settlement)

/-- Values that answer are not waited for any more. -/
theorem missing_perm_noteAnswers (host : Host) (ledger : Ledger) :
    ledger.missing.Perm (ledger.due.map (·.1) ++ (noteAnswers host ledger).missing) :=
  List.perm_append_comm_assoc _ _ _

@[simp] theorem map_fst_answers (host : Host) (ledger : Ledger) :
    (ledger.answers host).map (·.1) = ledger.due.map (·.1) := by
  simp [answers, Function.comp_def]

/-- What is noted of answers. -/
theorem mem_journal_noteAnswers {host : Host} {happening : Happening} :
    happening ∈ (noteAnswers host ledger).journal ↔
      happening ∈ ledger.journal ∨ (∃ answer ∈ ledger.answers host, .answered answer.1 answer.2 = happening) ∨
        ∃ number ∈ ledger.due.map (·.1), .settled number = happening := by
  rw [noteAnswers, List.append_assoc, List.mem_append, List.mem_append, List.mem_map, List.mem_map]

/-- No answer says that the host is drained. -/
theorem ne_drained_of_mem_answers {host : Host} {answer : Nat × Option Message}
    (given : answer ∈ ledger.answers host) : answer.2 ≠ some .drained := by
  obtain ⟨⟨number, line, settlement⟩, -, rfl⟩ := List.mem_map.mp given
  exact host.answerTo_ne_drained line settlement

/-- The values that are due answer and are settled. -/
theorem Sound.noteAnswers (sound : ledger.Sound) (paid : ¬ Owes ledger.journal) (host : Host) :
    (noteAnswers host ledger).Sound := by
  have perm := missing_perm_noteAnswers host ledger
  obtain ⟨dueDistinct, othersDistinct, apart⟩ := List.nodup_append.mp (perm.nodup_iff.mp sound.distinct)
  have waiting : ∀ number ∈ ledger.due.map (·.1), number ∈ ledger.missing := fun number member =>
    perm.mem_iff.mpr (List.mem_append_left _ member)
  have others : ∀ number, number ∈ (Ledger.noteAnswers host ledger).missing ↔
      number ∈ ledger.missing ∧ number ∉ ledger.due.map (·.1) := by
    intro number
    rw [perm.mem_iff, List.mem_append]
    have different : number ∈ ledger.due.map (·.1) → number ∉ (Ledger.noteAnswers host ledger).missing :=
      fun isDue member => apart number isDue number member rfl
    tauto
  have named : ∀ answer ∈ ledger.answers host, answer.1 ∈ ledger.due.map (·.1) := by
    intro answer member
    rw [← map_fst_answers host]
    exact List.mem_map_of_mem member
  refine ⟨othersDistinct, fun number => ?_, fun number member => ?_, fun number member message => ?_, ?_⟩
  · rw [others, sound.mem_missing, mem_journal_noteAnswers, mem_journal_noteAnswers]
    simp [and_assoc]
  · refine sound.reported number ?_
    simpa [mem_journal_noteAnswers] using member
  · obtain ⟨missing, notDue⟩ := (others number).mp member
    rw [mem_journal_noteAnswers]
    rintro (earlier | ⟨answer, given, same⟩ | ⟨other, -, same⟩)
    · exact sound.unanswered number missing message earlier
    · obtain ⟨rfl, -⟩ := Happening.answered.inj same
      exact notDue (named answer given)
    · cases same
  · -- All of them answer before the first of them is settled.
    have distinct : ((ledger.answers host).map (·.1)).Nodup := by rwa [map_fst_answers]
    obtain ⟨answered, still⟩ := sound.regular.append_answers paid distinct
      (fun answer given => ((sound.mem_missing _).mp (waiting _ (named answer given))).1)
      (fun answer given => sound.unanswered _ (waiting _ (named answer given)))
      (fun answer given => ne_drained_of_mem_answers given)
    refine answered.append_settled still dueDistinct (fun number isDue => ?_) (fun number isDue => ?_)
    · rw [← map_fst_answers host] at isDue
      obtain ⟨answer, given, rfl⟩ := List.mem_map.mp isDue
      exact ⟨answer.2, List.mem_append_right _ (List.mem_map_of_mem given)⟩
    · simpa using ((sound.mem_missing _).mp (waiting number isDue)).2

end Ledger

end Marginalia
