import Marginalia.Proofs.Session.Steps

/-! # Sound sessions
What holds in every state that a session can reach (`Session.Sound`): at most one run goes on, it is
the newest, and it belongs to an open session; every other run is over, its host told to end. The
invariant is kept by every step, so it holds after every history. -/

namespace Marginalia

open File

namespace Session

/-- What ties the runs of a session to its current run, its number and whether it is closed. -/
structure Sound (session : Session) : Prop where
  /-- Every run but the current one is over and its host told to end. -/
  ended : ∀ place run, session.runAt? place = some run → session.current ≠ some place →
    run.state = .terminated ∧ run.pipe.terminated = true
  /-- The current run is the newest. -/
  newest : ∀ place, session.current = some place → place + 1 = session.runs.length
  /-- A closed session has no current run. -/
  closed : session.closed = true → session.current = none
  /-- No run has a number beyond the current one. -/
  number : ∀ place run, session.runAt? place = some run → run.id ≤ session.runId

/-- What a run of a later session was before. -/
theorem GoesOn.back {before after : Session} (goesOn : before.GoesOn after) {place : Nat} {later : Run}
    (found : after.runAt? place = some later) :
    ∃ run, before.runAt? place = some run ∧ run.GoesOn later := by
  cases old : before.runAt? place with
  | none =>
    have beyond := (before.runAt?_eq_none_iff place).mp old
    rw [← goesOn.length, ← runAt?_eq_none_iff, found] at beyond
    simp at beyond
  | some run =>
    obtain ⟨same, foundSame, on⟩ := goesOn.runs place run old
    rw [found, Option.some.injEq] at foundSame
    exact ⟨run, rfl, foundSame ▸ on⟩

/-- A session that goes on stays sound. -/
theorem Sound.goesOn {before after : Session} (sound : before.Sound) (goesOn : before.GoesOn after) :
    after.Sound := by
  refine ⟨?_, ?_, ?_, ?_⟩
  · intro place later found other
    obtain ⟨run, old, on⟩ := goesOn.back found
    rw [goesOn.current] at other
    obtain ⟨past, told⟩ := sound.ended place run old other
    exact ⟨on.terminated past, on.told told⟩
  · intro place current
    rw [goesOn.current] at current
    rw [goesOn.length]
    exact sound.newest place current
  · intro closed
    rw [goesOn.closed] at closed
    rw [goesOn.current]
    exact sound.closed closed
  · intro place later found
    obtain ⟨run, old, on⟩ := goesOn.back found
    rw [on.id, goesOn.runId]
    exact sound.number place run old

/-- A session that is set up is sound: it has no run. -/
theorem sound_create (settings : Settings) (margin : Option Margin) (base : Option Path)
    (document : DocumentChange) : (create settings margin base document).1.Sound := by
  have empty (place : Nat) : (create settings margin base document).1.runAt? place = none := rfl
  refine ⟨?_, ?_, fun _ => rfl, ?_⟩
  · intro place run found
    simp [empty] at found
  · intro place current
    have none : (create settings margin base document).1.current = none := rfl
    simp [none] at current
  · intro place run found
    simp [empty] at found

/-- When the current run of a sound session is ended, every run is over, its host told to end, and
its number is not a later one. -/
theorem CurrentEnded.all_over {before after : Session} (ended : before.CurrentEnded after)
    (sound : before.Sound) {place : Nat} {run : Run} (found : after.runAt? place = some run) :
    run.state = .terminated ∧ run.pipe.terminated = true ∧ run.id ≤ before.runId := by
  rw [ended] at found
  split at found
  · obtain ⟨old, foundOld, rfl⟩ := Option.map_eq_some_iff.mp found
    exact ⟨rfl, rfl, sound.number place old foundOld⟩
  · next other =>
    obtain ⟨past, told⟩ := sound.ended place run found other
    exact ⟨past, told, sound.number place run found⟩

/-- Before a submission adds its run, every run is over and its host told to end. -/
theorem ended_cleared {session : Session} (sound : session.Sound) (base : Option Path)
    (document : DocumentChange) {place : Nat} {run : Run}
    (found : (session.cleared base document).runAt? place = some run) :
    run.state = .terminated ∧ run.pipe.terminated = true ∧ run.id ≤ session.runId := by
  obtain ⟨runs, context, -, -, ended⟩ := session.cleared_spec base document
  exact ended.all_over sound found

/-- The session to which a submission adds its run is sound. -/
theorem Sound.cleared {session : Session} (sound : session.Sound) (base : Option Path)
    (document : DocumentChange) : (session.cleared base document).Sound := by
  obtain ⟨runs, context, after, -⟩ := session.cleared_spec base document
  have current : (session.cleared base document).current = none := by rw [after]
  have number : (session.cleared base document).runId = session.runId + 1 := by rw [after]
  refine ⟨?_, ?_, fun _ => current, ?_⟩
  · intro place run found _
    obtain ⟨past, told, -⟩ := ended_cleared sound base document found
    exact ⟨past, told⟩
  · intro place isCurrent
    simp [current] at isCurrent
  · intro place run found
    obtain ⟨-, -, past⟩ := ended_cleared sound base document found
    rw [number]
    omega

/-- One more run keeps a session sound, if the runs before are over and the new one carries the
current number: as the current run of an open session, or over and its host told to end. -/
theorem Sound.withNewest {session : Session} (sound : session.Sound) (hosted : HostedRun)
    (alone : session.current = none) (number : hosted.run.id = session.runId) {current : Option Nat}
    (newest : (current = some session.runs.length ∧ session.closed = false) ∨
      (current = none ∧ hosted.run.state = .terminated ∧ hosted.run.pipe.terminated = true)) :
    (session.withNewest hosted current).Sound := by
  refine ⟨?_, ?_, ?_, ?_⟩
  · intro place run found other
    rcases runAt?_withNewest_cases found with before | ⟨here, rfl⟩
    · exact sound.ended place run before (by simp [alone])
    · rcases newest with ⟨isCurrent, -⟩ | ⟨-, past, told⟩
      · exact absurd (isCurrent.trans (congrArg some here.symm)) other
      · exact ⟨past, told⟩
  · intro place isCurrent
    have same : current = some place := isCurrent
    rcases newest with ⟨last, -⟩ | ⟨last, -⟩
    · rw [last, Option.some.injEq] at same
      simp [Session.withNewest, same]
    · simp [last] at same
  · intro closed
    have same : session.closed = true := closed
    rcases newest with ⟨-, opened⟩ | ⟨last, -⟩
    · simp [opened] at same
    · exact last
  · intro place run found
    rcases runAt?_withNewest_cases found with before | ⟨-, rfl⟩
    · exact sound.number place run before
    · exact Int.le_of_eq number

/-- Every step keeps a session sound. -/
theorem Sound.step {session : Session} (sound : session.Sound) (step : SessionStep) :
    (session.step step).1.Sound := by
  by_cases other : step.supersedes = false
  · exact sound.goesOn (session.goesOn_step step other).1
  cases closed : session.closed with
  | true =>
    cases step with
    | submit tree startFault capacity text base document =>
      simpa only [Session.step, submit_of_closed closed] using sound
    | close => simpa only [Session.step, close_of_closed closed] using sound
    | _ => simp [SessionStep.supersedes] at other
  | false =>
    cases step with
    | submit tree startFault capacity text base document =>
      have soundCleared := sound.cleared base document
      obtain ⟨runs, context, after, -⟩ := session.cleared_spec base document
      have alone : (session.cleared base document).current = none := by rw [after]
      have number : (session.cleared base document).runId = session.runId + 1 := by rw [after]
      have opened : (session.cleared base document).closed = false := by rw [after, closed]
      rcases submit_cases closed tree (.fresh startFault capacity) text base document with
        ⟨error, result, -⟩ | ⟨hosted, lastFailure, error, result, -, id, past, told⟩ |
        ⟨hosted, result, -, id⟩
      · simpa only [Session.step, result] using soundCleared
      · have added := soundCleared.withNewest hosted alone (id.trans number.symm)
          (.inr ⟨rfl, past, told⟩)
        simp only [Session.step, result]
        exact ⟨added.ended, added.newest, added.closed, added.number⟩
      · have added := soundCleared.withNewest hosted alone (id.trans number.symm)
          (.inl ⟨rfl, opened⟩)
        simpa only [Session.step, result] using added
    | close =>
      obtain ⟨runs, after, -, ended⟩ := close_of_open closed
      have current : session.close.1.current = none := by rw [after]
      have number : session.close.1.runId = session.runId + 1 := by rw [after]
      simp only [Session.step]
      refine ⟨?_, ?_, fun _ => current, ?_⟩
      · intro place run found _
        obtain ⟨past, told, -⟩ := ended.all_over sound found
        exact ⟨past, told⟩
      · intro place isCurrent
        simp [current] at isCurrent
      · intro place run found
        obtain ⟨-, -, past⟩ := ended.all_over sound found
        rw [number]
        omega
    | _ => simp [SessionStep.supersedes] at other

/-- Every history keeps a session sound. -/
theorem Sound.afterSteps {session : Session} (sound : session.Sound) (history : List SessionStep) :
    (session.afterSteps history).Sound := by
  induction history generalizing session with
  | nil => exact sound
  | cons step history ih => exact ih (sound.step step)

end Session

end Marginalia
