import Marginalia.Proofs.Margin.Listening
import Marginalia.Proofs.Session.Failures

/-! # The margin that a session is given
A session does nothing to its margin but empty it, update it and add listeners (`Session.marginActs`), and
all that it publishes comes of these acts (`Session.actsOn_step`). So a session that holds the margin it was
given leaves nothing of its work elsewhere (`UsesMargin`): the limit of that margin cuts the short texts and
its own listeners hear all annotations of all runs. It holds the given margin only if that margin shows
something; a margin that shows nothing yet is put aside for a new one. -/

namespace Marginalia

open File

/-! ## Acts that keep the listeners -/

/-- Whether an act removes no listener and changes none. -/
def MarginAct.keepsListeners : MarginAct → Bool
  | .update _ | .reset | .listen _ => true
  | .unlisten _ | .turn _ => false

namespace Margin

/-- An act that removes no listener and changes none. -/
theorem listeners_act {act : MarginAct} (keeps : act.keepsListeners = true) (margin : Margin) :
    margin.listeners <+: (margin.act act).1.listeners := by
  cases act with
  | update event =>
    rw [Margin.act, offer]
    split
    · exact List.prefix_rfl
    · have same := congrArg Margin.listeners (margin.updateAll_eq [event])
      rw [show (margin.update event).1.listeners = margin.listeners from same]
  | reset => exact List.prefix_rfl
  | listen listener => exact List.prefix_append margin.listeners [listener]
  | unlisten | turn => cases keeps

/-- Acts that remove no listener and change none. -/
theorem listeners_afterActs {acts : List MarginAct} (keeps : ∀ act ∈ acts, act.keepsListeners = true)
    (margin : Margin) : margin.listeners <+: (margin.afterActs acts).listeners := by
  induction acts generalizing margin with
  | nil => exact List.prefix_rfl
  | cons act acts ih =>
    obtain ⟨first, others⟩ := List.forall_mem_cons.mp keeps
    exact (listeners_act first margin).trans (ih others _)

/-- Offering an event is taking it. -/
theorem offer_fst (margin : Margin) (event : Event) : (margin.offer event).1 = margin.take event := by
  rw [offer, take]
  split <;> rfl

end Margin

/-! ## What a session does to its margin -/

namespace Session

/-- What a step does to the margin. A submission that is not refused empties it, and the events that carry
the current number are offered to it. -/
def marginActs (session : Session) : SessionStep → List MarginAct
  | .submit .. => if session.closed then [] else [.reset]
  | .listen listener => [.listen listener]
  | step => ((session.offered step).filter (·.runId = session.runId)).map .update

/-- What some steps do to the margin, in order. -/
def marginHistory (session : Session) : List SessionStep → List MarginAct
  | [] => []
  | step :: others => session.marginActs step ++ (session.step step).1.marginHistory others

/-- A session removes no listener of its margin and changes none. -/
theorem keepsListeners_of_mem_marginActs {session : Session} {step : SessionStep} {act : MarginAct}
    (member : act ∈ session.marginActs step) : act.keepsListeners = true := by
  have updates {events : List Event} (member : act ∈ events.map .update) : act.keepsListeners = true := by
    obtain ⟨event, -, rfl⟩ := List.mem_map.mp member
    rfl
  cases step with
  | submit =>
    rw [marginActs] at member
    split at member
    · cases member
    · rw [List.mem_singleton.mp member]
      rfl
  | listen listener =>
    rw [List.mem_singleton.mp member]
    rfl
  | close | setContext | message | hold | exit | failure | event | listenFailures => exact updates member

/-- A session removes no listener of its margin and changes none, in any history. -/
theorem keepsListeners_of_mem_marginHistory {session : Session} {history : List SessionStep} {act : MarginAct}
    (member : act ∈ session.marginHistory history) : act.keepsListeners = true := by
  induction history generalizing session with
  | nil => cases member
  | cons step history ih =>
    rcases List.mem_append.mp member with now | later
    · exact keepsListeners_of_mem_marginActs now
    · exact ih later

/-- What an operation of a session comes to if some acts are all that it does to the margin. -/
structure ActsOn (before : Session) (acts : List MarginAct) (after : Session × SessionReport) : Prop where
  /-- The margin is the one before after the acts. -/
  margin : after.1.margin = before.margin.afterActs acts
  /-- What is published comes of the acts. -/
  published : after.2.published = before.margin.publishedBy acts

/-- A step that changes and publishes nothing of the margin does no acts. -/
theorem Silent.actsOn {session : Session} {step : SessionStep} (silent : session.Silent step) :
    session.ActsOn [] (session.step step) := ⟨silent.1, silent.2⟩

/-- An event that a run passed on is offered to the margin if it carries the current number. -/
theorem actsOn_applyQueued (session : Session) (event : Event) :
    session.ActsOn (([event].filter (·.runId = session.runId)).map .update) (session.applyQueued event) := by
  by_cases current : event.runId = session.runId
  · have acts : ([event].filter (·.runId = session.runId)).map MarginAct.update = [.update event] := by
      simp [current]
    rw [acts]
    constructor
    · rw [applyQueued_fst, if_pos current, Margin.afterActs_cons, Margin.afterActs_nil, Margin.act,
        Margin.offer_fst]
    · rw [Margin.publishedBy_cons, Margin.publishedBy_nil, List.append_nil, Margin.act, Margin.offer]
      by_cases refused : session.margin.refuses event = true
      · simp [applyQueued, apply, isStale, current, refused, MarginReport.none, SessionReport.ofLogs]
      · cases fault : event.fault? with
        | none => simp [applyQueued, apply, isStale, current, refused, fault, SessionReport.ofMargin]
        | some numeral =>
          have failed := Event.classify?_of_fault? fault
          simp [applyQueued, apply, isStale, current, refused, fault, Margin.update_of_error failed,
            MarginReport.none, SessionReport.ofLogs]
  · have acts : ([event].filter (·.runId = session.runId)).map MarginAct.update = [] := by
      simp [current]
    rw [acts]
    exact (silent_event current).actsOn

/-- Events that a run passed on are offered to the margin in order, those that carry the current number. -/
theorem actsOn_applyAll (session : Session) (events : List Event) :
    session.ActsOn ((events.filter (·.runId = session.runId)).map .update) (session.applyAll events) := by
  induction events generalizing session with
  | nil => exact ⟨rfl, rfl⟩
  | cons event events ih =>
    have first := session.actsOn_applyQueued event
    have others := ih (session.applyQueued event).1
    have number : (session.applyQueued event).1.runId = session.runId := by rw [applyQueued_fst]
    have split : (event :: events).filter (·.runId = session.runId) =
        [event].filter (·.runId = session.runId) ++ events.filter (·.runId = session.runId) :=
      List.filter_append [event] events
    rw [number] at others
    rw [split, List.map_append]
    constructor
    · rw [Margin.afterActs_append, ← first.margin, ← others.margin]
      rfl
    · rw [Margin.publishedBy_append, ← first.margin, ← first.published, ← others.published]
      rfl

/-- What a run passes on when it reports is offered to the margin. -/
theorem actsOn_absorb (session : Session) (place : Nat) (run : Run) (report : RunReport) :
    session.ActsOn ((report.events.filter (·.runId = session.runId)).map .update)
      (session.absorb place run report) := by
  have applied := (session.setRun place run).actsOn_applyAll report.events
  obtain ⟨lastFailure, failed⟩ :=
    ((session.setRun place run).applyAll report.events).1.failAll_fst run.id report.failures
  constructor
  · simp only [absorb, failed]
    exact applied.margin
  · simp only [absorb, SessionReport.published_append, published_failAll, List.append_nil]
    exact applied.published

/-- A submission that is not refused empties the margin, whatever else comes of it. -/
theorem actsOn_submit {session : Session} (opened : session.closed = false) (tree : Tree) (pipe : Pipe)
    (text : List Char) (base : Option Path) (document : DocumentChange) :
    let submitted := session.submit tree pipe text base document
    session.ActsOn [.reset] (submitted.1, submitted.2.1) := by
  refine ⟨margin_submit opened tree pipe text base document, ?_⟩
  have cleared : (session.clearedReport base document).published = session.margin.publishedBy [.reset] :=
    (session.clearedReport_spec base document).2.trans (List.append_nil _).symm
  rw [← cleared]
  cases prepared : Preparation.document ((session.cleared base document).setting tree) text with
  | error error => rw [submit_of_lookup opened prepared]
  | ok result =>
    obtain ⟨code, logs⟩ := result
    -- Nothing of the new run is published before it says something.
    cases start : pipe.startFault with
    | some reason =>
      rw [submit_of_fault opened prepared start]
      exact (List.append_nil _).trans (List.append_nil _)
    | none =>
      rw [submit_of_start opened prepared start]
      exact (List.append_nil _).trans (List.append_nil _)

/-- **A step does its acts to the margin and nothing else.** -/
theorem actsOn_step (session : Session) (step : SessionStep) :
    session.ActsOn (session.marginActs step) (session.step step) := by
  cases step with
  | submit tree startFault capacity text base document =>
    rw [marginActs]
    cases closed : session.closed with
    | true =>
      simp only [Session.step, submit_of_closed closed]
      exact ⟨rfl, rfl⟩
    | false => exact actsOn_submit closed tree (.fresh startFault capacity) text base document
  | close =>
    obtain ⟨logs, quiet⟩ := session.close_snd
    cases closed : session.closed with
    | true =>
      simp only [Session.step, close_of_closed closed]
      exact ⟨rfl, rfl⟩
    | false =>
      obtain ⟨runs, after, -⟩ := close_of_open closed
      exact ⟨by rw [Session.step, after]; rfl, by rw [Session.step, quiet]; rfl⟩
  | setContext base document => exact ⟨rfl, rfl⟩
  | message place message =>
    have acts : session.marginActs (.message place message) =
      ((session.offered (.message place message)).filter (·.runId = session.runId)).map .update := rfl
    rw [acts]
    rcases session.step_message place message with ⟨same, quiet, offers⟩ | ⟨run, after, report, -, -, result,
      offers⟩
    · rw [offers]
      exact ⟨by rw [same]; rfl, by rw [quiet]; rfl⟩
    · rw [offers, result]
      exact session.actsOn_absorb place after report
  | hold place message =>
    cases found : session.runAt? place with
    | none =>
      simp only [Session.step, found]
      exact ⟨rfl, rfl⟩
    | some run =>
      rcases taken : run.receive message with error | ⟨after, report⟩
      · simp only [Session.step, found, taken]
        exact ⟨rfl, rfl⟩
      · simp only [Session.step, found, taken]
        exact ⟨rfl, rfl⟩
  | exit place code troubleText requested =>
    exact (session.silent_exit place code troubleText requested).actsOn
  | failure runId failure => exact (session.silent_failure runId failure).actsOn
  | event event => exact session.actsOn_applyQueued event
  | listen listener => exact ⟨rfl, rfl⟩
  | listenFailures listener => exact ⟨rfl, rfl⟩

/-- A history does its acts to the margin and nothing else. -/
theorem actsOn_history (session : Session) (history : List SessionStep) :
    (session.afterSteps history).margin = session.margin.afterActs (session.marginHistory history) ∧
      (session.reports history).flatMap (·.published) =
        session.margin.publishedBy (session.marginHistory history) := by
  induction history generalizing session with
  | nil => exact ⟨rfl, rfl⟩
  | cons step history ih =>
    have now := session.actsOn_step step
    obtain ⟨margin, published⟩ := ih (session.step step).1
    rw [afterSteps_cons, reports_cons, List.flatMap_cons, marginHistory, Margin.afterActs_append,
      Margin.publishedBy_append, margin, published, now.margin, now.published]
    exact ⟨rfl, rfl⟩

end Session

/-- A session uses a margin: all that a history does to a margin is done to that one, and all that is
published comes of it. -/
structure UsesMargin (given : Margin) (first : Session) (history : List SessionStep) : Prop where
  /-- The margin of the session is the given one after all acts. -/
  shown : (first.afterSteps history).margin = given.afterActs (first.marginHistory history)
  /-- What anybody hears is what comes of those acts at the given margin. -/
  heard : (first.reports history).flatMap (·.published) = given.publishedBy (first.marginHistory history)
  /-- The limit of the given margin governs the short texts. -/
  limit : (first.afterSteps history).margin.limit = given.limit
  /-- The listeners of the given margin hear what is shown after every act that tells anything. -/
  told : given.refused = none → ∀ early act late, first.marginHistory history = early ++ act :: late →
    act.tells = true → ∀ listener ∈ given.listeners,
      (listener, ((given.afterActs early).act act).1.annotations) ∈
        ((given.afterActs early).act act).2.published

/-- A session uses the margin that it holds. -/
theorem Session.usesMargin (first : Session) (history : List SessionStep) :
    UsesMargin first.margin first history := by
  obtain ⟨shown, heard⟩ := first.actsOn_history history
  refine ⟨shown, heard, ?_, fun whole early act late split tells listener member => ?_⟩
  · rw [shown]
    exact (first.margin.afterActs_keeps _).1
  · have kept : ∀ act ∈ early, act.keepsListeners = true := fun act member =>
      keepsListeners_of_mem_marginHistory (split ▸ List.mem_append_left _ member)
    have still := (Margin.listeners_afterActs kept first.margin).subset member
    rw [Margin.published_act ((first.margin.afterActs_keeps early).2.trans whole), if_pos tells]
    exact List.mem_map_of_mem still

/-- **A session uses the margin that it chose when it was set up**, in every history. It uses the one that
it was given in every history if and only if that margin shows something or is itself a new margin with the
limit of the settings and without listeners. A session that is given a margin which shows nothing is, in
all, the session that is given none. -/
theorem session_uses_chosen_margin (settings : Settings) (given : Margin) (base : Option Path)
    (document : DocumentChange) :
    let first := (Session.create settings (some given) base document).1
    (∀ history, UsesMargin (Session.chooseMargin settings (some given)) first history) ∧
      ((∀ history, UsesMargin given first history) ↔
        given.annotations ≠ [] ∨ given = Margin.empty settings.shortLimit) ∧
      (Session.create settings (some given) base document = Session.create settings none base document ↔
        given.annotations = []) := by
  intro first
  have holds : first.margin = Session.chooseMargin settings (some given) := rfl
  have uses : ∀ history, UsesMargin first.margin first history := first.usesMargin
  have kept (shows : given.annotations ≠ []) : first.margin = given := by
    rw [holds, Session.chooseMargin, if_neg (by simpa using shows)]
  have replaced (blank : given.annotations = []) : first.margin = Margin.empty settings.shortLimit := by
    rw [holds, Session.chooseMargin, if_pos (by simpa using blank)]
  refine ⟨uses, ⟨fun law => ?_, ?_⟩, fun same => ?_, fun blank => ?_⟩
  · by_cases blank : given.annotations = []
    · exact .inr ((law []).shown.symm.trans (replaced blank))
    · exact .inl blank
  · rintro (shows | rfl)
    · exact kept shows ▸ uses
    · exact replaced rfl ▸ uses
  · by_contra shows
    have ownMargin : first.margin = Margin.empty settings.shortLimit :=
      congrArg (·.1.margin) same
    exact shows (congrArg Margin.annotations ((kept shows).symm.trans ownMargin))
  · rw [Session.create, Session.create, ← holds, replaced blank]
    rfl

/-- A margin that shows nothing yet, with a pane that listens to it, is put aside for one that cuts texts
elsewhere, and the pane hears nothing of what is printed. -/
theorem given_margin_put_aside :
    let pane : Listener := ⟨"pane", false⟩
    let given : Margin := (Margin.empty 120).addListener pane
    let printed : Event := ⟨1, .console "abcdef", 0⟩
    let first := (Session.create { Settings.standard with shortLimit := 4 } (some given) none .keep).1
    first.marginHistory [.event printed] = [.update printed] ∧
      given.publishedBy [.update printed] = [(pane, [⟨1, .terminal, "abcdef", "abcdef"⟩])] ∧
      (first.reports [.event printed]).flatMap (·.published) = [] ∧
      (first.afterSteps [.event printed]).margin.annotations = [⟨1, .terminal, "abc…", "abcdef"⟩] ∧
      ¬ UsesMargin given first [.event printed] := by
  intro pane given printed first
  have acts : first.marginHistory [.event printed] = [.update printed] := rfl
  have wanted : given.publishedBy [.update printed] = [(pane, [⟨1, .terminal, "abcdef", "abcdef"⟩])] := by
    decide +kernel
  have nothing : (first.reports [.event printed]).flatMap (·.published) = [] := by decide +kernel
  refine ⟨acts, wanted, nothing, by decide +kernel, fun law => ?_⟩
  have heard := law.heard
  rw [acts, wanted, nothing] at heard
  exact absurd heard (List.cons_ne_nil _ _).symm

end Marginalia
