import Marginalia.Proofs.Session.Steps

/-! # Watching a history
Beside a history runs an account of it that knows of no run (`Watch`): the number of the last submission,
whether its host is up, and who receives failures. By this account a failure is to be reported for a host
that cannot be started, for the first exit of a host that is up if nobody asked for it, and for each report
that carries the current number. What is to be reported goes to every receiver, and one that is added once
gets it once (`Watch.received_of_added_once`). -/

namespace Marginalia

open File

/-! ## The account -/

/-- What is known of a session from what happened to it. -/
structure Watch where
  /-- The names under which the console is called. -/
  functions : List (List Char)
  /-- Where the document is evaluated. -/
  context : Module.Context
  /-- The number of submissions, and one more if the session is closed. -/
  runId : Int
  /-- The number of hosts that were called for. -/
  made : Nat
  /-- The place of the host of the last submission, if that host is up. -/
  up : Option Nat
  /-- Whether the session is closed. -/
  closed : Bool
  /-- The receivers of failures, in the order in which they were added. -/
  receivers : List Listener
  deriving Repr

namespace Watch

/-- What is known when a session is set up. -/
def start (settings : Settings) (base : Option Path) (document : DocumentChange) : Watch where
  functions := settings.consoleFunctions.map String.toList
  context := Session.changeContext ⟨none, none⟩ base document
  runId := 0
  made := 0
  up := none
  closed := false
  receivers := []

/-- What is known once a submission has ended the run before it. -/
def renewed (watch : Watch) (base : Option Path) (document : DocumentChange) : Watch :=
  { watch with
    context := Session.changeContext watch.context base document
    runId := watch.runId + 1
    up := none }

/-- What is known after a submission, and the failure of a host that cannot be started. -/
def submit (watch : Watch) (tree : Tree) (startFault : Option String) (text : List Char)
    (base : Option Path) (document : DocumentChange) : Watch × List Failure :=
  if watch.closed then (watch, [])
  else
    let next := watch.renewed base document
    match Preparation.document ⟨tree, next.context, next.functions⟩ text with
    | .error _ => (next, [])
    | .ok _ =>
      match startFault with
      | some reason => ({ next with made := next.made + 1 }, [.notStarted reason])
      | none => ({ next with made := next.made + 1, up := some next.made }, [])

/-- What is known after a step, and the failures to report. -/
def step (watch : Watch) : SessionStep → Watch × List Failure
  | .submit tree startFault _ text base document => watch.submit tree startFault text base document
  | .close =>
    if watch.closed then (watch, [])
    else ({ watch with runId := watch.runId + 1, up := none, closed := true }, [])
  | .setContext base document =>
    ({ watch with context := Session.changeContext watch.context base document }, [])
  | .exit place code troubleText requested =>
    if watch.up = some place then
      ({ watch with up := none }, if requested then [] else [.ofExit code troubleText])
    else (watch, [])
  | .failure runId failure => (watch, if runId = watch.runId then [failure] else [])
  | .listenFailures listener => ({ watch with receivers := watch.receivers ++ [listener] }, [])
  | .message .. | .hold .. | .event .. | .listen .. => (watch, [])

/-- What is known after some steps in order. -/
def after (watch : Watch) : List SessionStep → Watch
  | [] => watch
  | step :: others => (watch.step step).1.after others

/-- The failures to report in the course of some steps, in order. -/
def reported (watch : Watch) : List SessionStep → List Failure
  | [] => []
  | step :: others => (watch.step step).2 ++ (watch.step step).1.reported others

/-- Who is to receive some failures: each of them goes to every receiver, in order. -/
def deliveries (watch : Watch) (failures : List Failure) : List (Listener × Failure) :=
  failures.flatMap fun failure => watch.receivers.map fun listener => (listener, failure)

/-- What the receivers are to receive in the course of some steps, in order. -/
def calls (watch : Watch) : List SessionStep → List (Listener × Failure)
  | [] => []
  | step :: others => watch.deliveries (watch.step step).2 ++ (watch.step step).1.calls others

theorem calls_append (watch : Watch) (early late : List SessionStep) :
    watch.calls (early ++ late) = watch.calls early ++ (watch.after early).calls late := by
  induction early generalizing watch with
  | nil => rfl
  | cons step early ih =>
    simp only [List.cons_append, calls, after, ih, List.append_assoc]

/-! ## What one receiver gets -/

/-- The receivers after a step: one more if one is added, otherwise the same. -/
theorem receivers_step (watch : Watch) (step : SessionStep) :
    (watch.step step).1.receivers =
      watch.receivers ++ match step with
        | .listenFailures listener => [listener]
        | _ => [] := by
  cases step with
  | submit tree startFault capacity text base document =>
    simp only [Watch.step, submit, List.append_nil]
    split
    · rfl
    · split
      · rfl
      · cases startFault <;> rfl
  | close =>
    simp only [Watch.step, List.append_nil]
    split <;> rfl
  | exit place code troubleText requested =>
    simp only [Watch.step, List.append_nil]
    split <;> rfl
  | listenFailures listener => rfl
  | _ => exact (List.append_nil _).symm

/-- A listener that is not added by a step is a receiver as often as before. -/
theorem count_step (watch : Watch) {listener : Listener} {step : SessionStep}
    (other : step ≠ .listenFailures listener) :
    (watch.step step).1.receivers.count listener = watch.receivers.count listener := by
  rw [receivers_step, List.count_append, Nat.add_eq_left, List.count_eq_zero]
  cases step with
  | listenFailures added =>
    intro member
    exact other (List.mem_singleton.mp member ▸ rfl)
  | _ => exact List.not_mem_nil

/-- A listener that is not added by any of some steps is a receiver as often as before. -/
theorem count_after (watch : Watch) {listener : Listener} {history : List SessionStep}
    (others : .listenFailures listener ∉ history) :
    (watch.after history).receivers.count listener = watch.receivers.count listener := by
  induction history generalizing watch with
  | nil => rfl
  | cons step history ih =>
    obtain ⟨other, others⟩ := List.ne_and_not_mem_of_not_mem_cons others
    exact (ih (watch.step step).1 others).trans (watch.count_step (Ne.symm other))

/-- The failures that a receiver gets among some deliveries. -/
def received (listener : Listener) (calls : List (Listener × Failure)) : List Failure :=
  (calls.filter (·.1 = listener)).map (·.2)

theorem received_append (listener : Listener) (early late : List (Listener × Failure)) :
    received listener (early ++ late) = received listener early ++ received listener late := by
  rw [received, List.filter_append, List.map_append]
  rfl

/-- A receiver gets each failure as often as it is a receiver. -/
theorem received_deliveries (watch : Watch) (listener : Listener) (failures : List Failure) :
    received listener (watch.deliveries failures) =
      failures.flatMap fun failure => List.replicate (watch.receivers.count listener) failure := by
  have once (failure : Failure) (receivers : List Listener) :
      received listener (receivers.map fun listener => (listener, failure)) =
        List.replicate (receivers.count listener) failure := by
    induction receivers with
    | nil => rfl
    | cons first receivers ih =>
      by_cases same : first = listener
      · simp only [received] at ih
        simp [received, same, ih, List.replicate_succ]
      · simp only [received] at ih
        simp [received, same, ih]
  induction failures with
  | nil => rfl
  | cons failure failures ih =>
    rw [deliveries, List.flatMap_cons, received_append, once, List.flatMap_cons]
    exact congrArg (_ ++ ·) ih

/-- A receiver gets each failure as often as it is a receiver, as long as it is not added again. -/
theorem received_calls (watch : Watch) {listener : Listener} {history : List SessionStep}
    (others : .listenFailures listener ∉ history) :
    received listener (watch.calls history) =
      (watch.reported history).flatMap fun failure =>
        List.replicate (watch.receivers.count listener) failure := by
  induction history generalizing watch with
  | nil => rfl
  | cons step history ih =>
    obtain ⟨other, others⟩ := List.ne_and_not_mem_of_not_mem_cons others
    have first := watch.received_deliveries listener (watch.step step).2
    have rest := ih (watch.step step).1 others
    rw [watch.count_step (Ne.symm other)] at rest
    rw [calls, received_append, first, rest, reported, List.flatMap_append]

/-- A listener that is added once gets each failure that is reported later, once and in order. -/
theorem received_of_added_once (watch : Watch) {listener : Listener} (new : listener ∉ watch.receivers)
    {early late : List SessionStep} (before : .listenFailures listener ∉ early)
    (later : .listenFailures listener ∉ late) :
    received listener (watch.calls (early ++ .listenFailures listener :: late)) =
      (watch.after early).reported (.listenFailures listener :: late) := by
  have none : watch.receivers.count listener = 0 := List.count_eq_zero.mpr new
  have unheard : received listener (watch.calls early) = [] := by
    rw [received_calls watch before, none]
    simp
  let added := ((watch.after early).step (.listenFailures listener)).1
  have once : added.receivers.count listener = 1 := by
    simp [added, Watch.step, watch.count_after before, none]
  calc received listener (watch.calls (early ++ .listenFailures listener :: late))
      = received listener (added.calls late) := by
        rw [calls_append, received_append, unheard]
        rfl
    _ = (added.reported late).flatMap fun failure => List.replicate 1 failure := by
        rw [received_calls added later, once]
    _ = added.reported late := by simp [List.flatMap_singleton']

end Watch

end Marginalia
