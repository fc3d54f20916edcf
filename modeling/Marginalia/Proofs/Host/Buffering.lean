import Marginalia.Proofs.Host.Docket

/-! # The buffer of a host
A statement may take several evaluations. A host asks for the text of all of them that are known so far, which
is the text of the portions behind the last one whose statement does not go on; and when the end of the input is
noted, it reports the statement that is not complete, if there is one, and forgets it
(`host_buffers_statements`). -/

namespace Marginalia

/-- What is said when the input ends behind some portions: a statement that is not complete is an error on the
line on which it begins. -/
def cutOffMessages (portions : List Portion) : List Message :=
  match openPortions portions with
  | [] => []
  | first :: others => [.error first.line (Host.cutOffError (statementText (first :: others)))]

namespace Host

variable {host : Host} {docket : Docket}

theorem sent_endIfDrained (host : Host) :
    host.endIfDrained.sent =
      host.sent ++ if host.ended && host.pending == 0 && !host.drained then [.drained] else [] := by
  rw [endIfDrained]
  split
  · rfl
  · rw [List.append_nil]

/-- The host at the end of the input, before it may say that it is drained. -/
def finished (host : Host) : Host :=
  { (if host.buffer.isEmpty then host
      else { host.send (.error host.openLine (cutOffError host.buffer)) with buffer := [] }) with
    ended := true }

theorem finish_eq (host : Host) : host.finish = host.finished.endIfDrained := rfl

/-- What is said of a statement at the end of the input follows from the docket. -/
theorem sent_finished (rests : docket.Rests host.desk) :
    host.finished.sent = host.sent ++ cutOffMessages docket.portions := by
  have buffered : host.buffer = statementText (openPortions docket.portions) := rests.buffer
  rw [finished, cutOffMessages, buffered]
  cases group : openPortions docket.portions with
  | nil =>
    rw [statementText_nil, List.isEmpty_nil, if_pos rfl, List.append_nil]
  | cons first others =>
    have filled : (statementText (first :: others)).isEmpty = false := by simp [statementText]
    have begins : host.openLine = first.line := rests.openLine first.line (by rw [group]; rfl)
    rw [filled, if_neg Bool.false_ne_true, begins]
    rfl

/-- What is said at the end of the input follows from the docket. -/
theorem sent_finish (rests : docket.Rests host.desk) :
    host.finish.sent = host.sent ++ cutOffMessages docket.portions ++
      if host.pending == 0 && !host.drained then [.drained] else [] := by
  have same : host.finished.pending = host.pending ∧ host.finished.drained = host.drained := by
    rw [finished]
    split <;> exact ⟨rfl, rfl⟩
  rw [finish_eq, sent_endIfDrained, sent_finished rests, same.1, same.2]
  rfl

end Host

/-- **Statements are buffered as they were told.** Whatever commands a host is given and whatever the
interpreter does, at every moment the texts that were asked for are those of the docket: each is the text of
the portions behind the last one whose statement does not go on. And when the end of the input is noted, the
statement that is not complete is reported once, on the line on which it begins, if there is one; then nothing
is left of it. -/
theorem host_buffers_statements (version : String) (setup : HostSetup) :
    let start := Host.start version setup
    (∀ history, start.after (start.chronicle history) = start.steps history ∧
      start.Admits (start.chronicle history)) ∧
    (∀ events, start.Admits events →
      (start.after events).evaluations = evaluationsOf (Docket.ofEvents events).portions) ∧
    ∀ events command, start.Admits (events ++ [.start command]) → Host.Request.read command = .finish →
      let host := start.after events
      let next := start.after (events ++ [.start command])
      next.sent = host.sent ++ cutOffMessages (Docket.ofEvents events).portions ++
          (if host.pending == 0 && !host.drained then [.drained] else []) ∧
        next.buffer = [] ∧ openPortions (Docket.ofEvents (events ++ [.start command])).portions = [] := by
  intro start
  refine ⟨Host.chronicle_spec rfl, fun events admitted => (Host.tells_after admitted).evaluations, ?_⟩
  intro events command admitted reads host next
  obtain ⟨earlier, ⟨-, idle, -⟩, -⟩ := Host.admits_append.mp admitted
  have tells : (Docket.ofEvents events).Tells host.desk := Host.tells_after earlier
  have ends : next = host.popped.finish := by
    simp only [next, Host.after_append, Host.after_cons, Host.after_nil, Host.happen, Host.begin,
      Host.handle, reads]
    rfl
  have popped : (Docket.ofEvents events).Tells host.popped.desk := tells.of_waiting _
  have rests : (Docket.ofEvents events).Rests host.popped.desk := popped.rests idle
  have desk : next.desk = { host.popped.desk with buffer := [] } := by rw [ends, Host.desk_finish]
  have same : next.evaluations = host.evaluations := congrArg Desk.evaluations desk
  -- The end of the input asks for nothing, so the host still rests behind it.
  have still : next.isBusy = false := by
    rw [Host.isBusy, same]
    exact idle
  refine ⟨?_, congrArg Desk.buffer desk, ?_⟩
  · rw [ends]
    exact Host.sent_finish rests
  · have after : (Docket.ofEvents (events ++ [.start command])).Rests next.desk :=
      (Host.tells_after admitted).rests still
    exact statementText_eq_nil.mp (after.buffer.symm.trans (congrArg Desk.buffer desk))

/-- A statement of two lines that is not complete is reported on the first one. -/
theorem host_buffers_statements_of_two_lines :
    let start := Host.start "v20.11.0" ⟨some 2, ["log"]⟩
    let events := [.arrive (evalCommand 1 "f("), .start (evalCommand 1 "f("), .act (.answer .recoverable),
      .comeBack none, .arrive (evalCommand 2 "1,"), .start (evalCommand 2 "1,"), .act (.answer .recoverable),
      .comeBack none, .arrive endCommand]
    start.Admits (events ++ [.start endCommand]) ∧ Host.Request.read endCommand = .finish ∧
      (start.after events).evaluated = ["f(\n".toList, "f(\n1,\n".toList] ∧
      (start.after (events ++ [.start endCommand])).sent = [.ready "v20.11.0",
        .error (some (.int 1)) (Host.cutOffError "f(\n1,\n".toList), .drained] := by
  intro start events
  have admitted : start.Admits (events ++ [.start endCommand]) :=
    ⟨trivial, ⟨rfl, rfl, rfl, rfl⟩, trivial, rfl, trivial, ⟨rfl, rfl, rfl, rfl⟩, trivial, rfl, trivial,
      ⟨rfl, rfl, rfl, rfl⟩, trivial⟩
  have reads : Host.Request.read endCommand = .finish := rfl
  obtain ⟨-, texts, ends⟩ := host_buffers_statements "v20.11.0" ⟨some 2, ["log"]⟩
  obtain ⟨sent, -, -⟩ := ends events endCommand admitted reads
  refine ⟨admitted, reads, ?_, ?_⟩
  · rw [Host.evaluated, texts events (Host.admits_append.mp admitted).1]
    decide +kernel
  · rw [sent]
    rfl

end Marginalia
