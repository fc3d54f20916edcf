import Marginalia.Proofs.Host.Draining

/-! # Where messages come from
Everything that a host sends comes from something that happened, and says so by its line (`Comes`): a value or
an error from the evaluation that was answered with it, the settlement of a promise from an evaluation that was
answered with the promise or with the object that it adopts, however late it is (`Pledged`), the report of an
uncaught error from the evaluation
that is being asked for, a statement that is cut off from its first portion, and a printed text from whatever
was asked for last. For the promises, what the host keeps of them is backed by such answers at every moment
(`Backed`). -/

namespace Marginalia

open Script

/-! ## Answers and the promises among them -/

namespace Docket

/-- The line of the evaluation of a number, if it was asked for. -/
def lineOf? (docket : Docket) (number : Nat) : Option ToldLine := docket.portions[number]?.map (·.line)

/-- The answer of an event, with the number of the evaluation that it answers. -/
def answer? (docket : Docket) : HostEvent → Option (Nat × Answer)
  | .act (.answer answer) => some (docket.portions.length - 1, answer)
  | .act (.answerTo number answer) => some (number, answer)
  | _ => none

end Docket

/-- Whether a value is an object to wait for that is no promise, so that a promise is made to adopt it. -/
def isAdoptable : Value → Bool
  | .promise _ => false
  | value => value.isThenable

/-- The promise by which a value is waited for when some were made: itself, or the next one that is made. -/
def awaitedAs? (made : Nat) : Value → Option PromiseId
  | .promise number => some (.told number)
  | value => if isAdoptable value then some (.made made) else none

/-- Whether an answer brings an object to adopt. -/
def Answer.adopts : Answer → Bool
  | .value given => isAdoptable given
  | .error _ | .recoverable | .unreportable .. => false

/-- Whether an event answers an evaluation that was asked for with an object to adopt. -/
def Docket.adopts (docket : Docket) (event : HostEvent) : Bool :=
  (docket.answer? event).any fun (number, answer) => (docket.lineOf? number).isSome && answer.adopts

theorem Docket.adopts_of_answer {docket : Docket} {event : HostEvent} {number : Nat} {answer : Answer}
    (answers : docket.answer? event = some (number, answer)) :
    docket.adopts event = ((docket.lineOf? number).isSome && answer.adopts) := by
  rw [Docket.adopts, answers]
  rfl

/-- The docket of some events, and how many promises were made for objects to adopt. -/
def countAdoption (account : Docket × Nat) (event : HostEvent) : Docket × Nat :=
  (account.1.note event, if account.1.adopts event then account.2 + 1 else account.2)

/-- How many promises some events make for objects to adopt. -/
def adoptions (events : List HostEvent) : Nat := (events.foldl countAdoption (.empty, 0)).2

@[simp] theorem adoptions_nil : adoptions [] = 0 := rfl

theorem fst_countAdoption (events : List HostEvent) :
    (events.foldl countAdoption (.empty, 0)).1 = Docket.ofEvents events := by
  induction events using List.reverseRecOn with
  | nil => rfl
  | append_singleton events event ih => rw [List.foldl_concat, countAdoption, ih, Docket.ofEvents_concat]

@[simp] theorem adoptions_concat (events : List HostEvent) (event : HostEvent) :
    adoptions (events ++ [event]) =
      if (Docket.ofEvents events).adopts event then adoptions events + 1 else adoptions events := by
  rw [adoptions, List.foldl_concat, countAdoption, fst_countAdoption]
  rfl

/-- More events make no fewer promises. -/
theorem adoptions_le_of_isPrefix {before events : List HostEvent} (inside : before <+: events) :
    adoptions before ≤ adoptions events := by
  obtain ⟨later, rfl⟩ := inside
  induction later using List.reverseRecOn with
  | nil => rw [List.append_nil]
  | append_singleton later event ih =>
    rw [← List.append_assoc, adoptions_concat]
    split <;> omega

/-- An event answers an evaluation that was asked for on a line, with a promise or with an object that it adopts.
-/
def Gives (before : List HostEvent) (event : HostEvent) (id : PromiseId) (line : ToldLine) : Prop :=
  ∃ number value, (Docket.ofEvents before).answer? event = some (number, .value value) ∧
    (Docket.ofEvents before).lineOf? number = some line ∧ awaitedAs? (adoptions before) value = some id

/-- An evaluation that was asked for on a line has been answered with a promise, or with an object that it adopts.
-/
def Pledged (events : List HostEvent) (id : PromiseId) (line : ToldLine) : Prop :=
  ∃ before event, before ++ [event] <+: events ∧ Gives before event id line

theorem Pledged.concat {events : List HostEvent} {id : PromiseId} {line : ToldLine}
    (pledged : Pledged events id line) (event : HostEvent) : Pledged (events ++ [event]) id line := by
  obtain ⟨before, answering, inside, gives⟩ := pledged
  exact ⟨before, answering, inside.trans (List.prefix_append _ _), gives⟩

/-- A value that is waited for by a promise that is made for it is an object to adopt. -/
theorem isAdoptable_of_awaitedAs? {made number : Nat} {value : Value}
    (awaited : awaitedAs? made value = some (.made number)) : isAdoptable value = true ∧ number = made := by
  cases value with
  | promise => cases awaited
  | _ =>
    dsimp only [awaitedAs?] at awaited
    split at awaited
    · next adopts => exact ⟨adopts, (PromiseId.made.inj (Option.some.inj awaited)).symm⟩
    · cases awaited

/-- An event that gives a promise that is made for an object makes the next one. -/
theorem Gives.made {before : List HostEvent} {event : HostEvent} {number : Nat} {line : ToldLine}
    (gives : Gives before event (.made number) line) :
    number = adoptions before ∧ adoptions (before ++ [event]) = number + 1 := by
  obtain ⟨answered, value, answers, asked, awaited⟩ := gives
  obtain ⟨adoptable, rfl⟩ := isAdoptable_of_awaitedAs? awaited
  have adopts : (Docket.ofEvents before).adopts event = true := by
    rw [Docket.adopts_of_answer answers, asked]
    exact adoptable
  rw [adoptions_concat, if_pos adopts]
  exact ⟨rfl, rfl⟩

/-- An event gives a promise on one line. -/
theorem Gives.unique {before : List HostEvent} {event : HostEvent} {id : PromiseId} {line other : ToldLine}
    (gives : Gives before event id line) (again : Gives before event id other) : line = other := by
  obtain ⟨number, value, answers, asked, -⟩ := gives
  obtain ⟨same, sameValue, sameAnswers, sameAsked, -⟩ := again
  obtain ⟨rfl, -⟩ := Prod.mk.inj (Option.some.inj (answers.symm.trans sameAnswers))
  exact Option.some.inj (asked.symm.trans sameAsked)

/-- A promise that is made for an object is given by one event, on one line. -/
theorem Pledged.unique {events : List HostEvent} {number : Nat} {line other : ToldLine}
    (given : Pledged events (.made number) line) (again : Pledged events (.made number) other) : line = other := by
  -- Of two events that make promises, the later one makes a later promise.
  have alike {before later : List HostEvent} {event last : HostEvent} {line other : ToldLine}
      (inside : before ++ [event] <+: later ++ [last]) (gives : Gives before event (.made number) line)
      (again : Gives later last (.made number) other) : line = other := by
    rcases List.prefix_concat_iff.mp inside with same | earlier
    · obtain ⟨rfl, rfl⟩ := List.append_singleton_inj.mp same
      exact gives.unique again
    · have := adoptions_le_of_isPrefix earlier
      have := gives.made.2
      have := again.made.1
      omega
  obtain ⟨before, event, inside, gives⟩ := given
  obtain ⟨later, last, insideToo, givesToo⟩ := again
  rcases List.prefix_or_prefix_of_prefix inside insideToo with ahead | behind
  · exact alike ahead gives givesToo
  · exact (alike behind givesToo gives).symm

/-! ## Promises that are settled -/

namespace Script.Promises

variable {promises : Promises}

/-- No promise is told of twice. -/
def Distinct (promises : Promises) : Prop := (promises.map (·.1)).Nodup

theorem Distinct.setState (distinct : promises.Distinct) (id : PromiseId) (state : PromiseState) :
    (promises.setState id state).Distinct := by
  refine List.nodup_cons.mpr ⟨?_, distinct.sublist (List.filter_sublist.map _)⟩
  simp

theorem Distinct.state_of_mem (distinct : promises.Distinct) {id : PromiseId} {state : PromiseState}
    (member : (id, state) ∈ promises) : promises.state id = state := by
  induction promises with
  | nil => exact absurd member List.not_mem_nil
  | cons first others ih =>
    obtain ⟨fresh, rest⟩ := List.nodup_cons.mp distinct
    rcases List.mem_cons.mp member with rfl | behind
    · simp [Promises.state]
    · have different : first.1 ≠ id := fun same => fresh (List.mem_map.mpr ⟨_, behind, same.symm⟩)
      have found := ih rest behind
      rw [Promises.state] at found ⊢
      rw [List.find?_cons_of_neg (by simpa using different), found]

/-- How a promise is settled that follows a settled one. -/
def follow? (promises : Promises) : PromiseId × PromiseState → Option (PromiseId × Settlement)
  | (id, .following other) => (promises.settlement? other).map fun settlement => (id, settlement)
  | _ => none

theorem followers_eq (promises : Promises) :
    promises.followers = promises.reverse.filterMap (follow? promises) := by
  rw [Promises.followers]
  congr 1
  funext ⟨id, state⟩
  cases state <;> rfl

theorem follow?_eq_some {entry : PromiseId × PromiseState} {follower : PromiseId × Settlement}
    (follows : follow? promises entry = some follower) :
    follower.1 = entry.1 ∧ ∃ other, entry.2 = .following other := by
  obtain ⟨id, state⟩ := entry
  cases state with
  | following other =>
    obtain ⟨settlement, -, rfl⟩ := Option.map_eq_some_iff.mp follows
    exact ⟨rfl, other, rfl⟩
  | pending | adopting | settled => cases follows

/-- The promises that follow settled ones stand so, and each is told once. -/
theorem Distinct.followers (distinct : promises.Distinct) :
    (promises.followers.map (·.1)).Nodup ∧
      ∀ follower ∈ promises.followers, ∃ other, promises.state follower.1 = .following other := by
  have told : ∀ entries : Promises, List.Sublist ((entries.filterMap (follow? promises)).map (·.1))
      (entries.map (·.1)) := fun entries => by
    induction entries with
    | nil => exact List.Sublist.refl _
    | cons first others ih =>
      rw [List.filterMap_cons]
      cases follows : follow? promises first with
      | none => exact ih.cons _
      | some follower =>
        obtain ⟨same, -⟩ := follow?_eq_some follows
        rw [List.map_cons, List.map_cons, same]
        exact ih.cons_cons _
  rw [followers_eq]
  refine ⟨?_, fun follower member => ?_⟩
  · have once : (promises.reverse.map (·.1)).Nodup := by
      rw [List.map_reverse]
      exact List.nodup_reverse.mpr distinct
    exact once.sublist (told promises.reverse)
  · obtain ⟨entry, inside, follows⟩ := List.mem_filterMap.mp member
    obtain ⟨same, other, state⟩ := follow?_eq_some follows
    refine ⟨other, ?_⟩
    rw [same]
    exact distinct.state_of_mem (state ▸ List.mem_reverse.mp inside)

end Script.Promises

/-! ## What the host keeps of promises -/

namespace Host

/-- What a host keeps of promises. -/
def books (host : Host) : Promises × Nat × List (PromiseId × ToldLine) × List (ToldLine × Settlement) :=
  (host.promises, host.made, host.awaited, host.due)

@[simp] theorem books_endIfDrained (host : Host) : host.endIfDrained.books = host.books := by
  unfold endIfDrained
  split <;> rfl

@[simp] theorem books_settle (host : Host) (number : Nat) (keepsText : Bool) :
    (host.settle number keepsText).books = host.books :=
  judge_keeps books (fun _ _ _ _ => rfl) host (some (number, keepsText))

@[simp] theorem books_surfaceAll (host : Host) : host.surfaceAll.books = host.books :=
  foldl_keeps books (fun host thrown => show (host.sendSurfaced thrown).books = host.books from rfl) _ _

@[simp] theorem books_begin (host : Host) (command : Json) : (host.begin command).books = host.books := by
  rw [begin, handle]
  cases Request.read command with
  | finish =>
    rw [finish, books_endIfDrained]
    dsimp only
    split <;> rfl
  | evaluate | exit | unknown | broken => rfl

end Host

/-- An object to adopt is reported when a promise is settled that is made for it. -/
theorem Host.report_of_isAdoptable {value : Value} (adopts : isAdoptable value = true) :
    (∀ (host : Host) (line : ToldLine), host.report line value = host.adopt.await line (.made host.made)) ∧
      ∀ made, awaitedAs? made value = some (.made made) := by
  cases value with
  | promise | missing => cases adopts
  | _ => exact ⟨fun _ _ => if_pos adopts, fun _ => if_pos adopts⟩

/-- What a host keeps of promises is backed by answers. -/
structure Backed (pledged : PromiseId → ToldLine → Prop) (made : Nat) (host : Host) : Prop where
  /-- No promise is told of twice. -/
  distinct : host.promises.Distinct
  /-- As many promises were made as the answers tell. -/
  count : host.made = made
  /-- Nothing is told of a promise that is not made yet. -/
  fresh : ∀ number, made ≤ number → host.promises.state (.made number) = .pending
  /-- A promise that is waited for has been given on its line. -/
  awaited : ∀ entry ∈ host.awaited, pledged entry.1 entry.2
  /-- A report that is due tells the settlement of a promise that has been given on its line. -/
  due : ∀ entry ∈ host.due, ∃ id, pledged id entry.1 ∧ host.promises.settlement? id = some entry.2

namespace Backed

variable {pledged : PromiseId → ToldLine → Prop} {made : Nat} {host : Host}

theorem of_books {other : Host} (backed : Backed pledged made host) (same : other.books = host.books) :
    Backed pledged made other := by
  obtain ⟨promises, made', awaited, due⟩ : other.promises = host.promises ∧ other.made = host.made ∧
      other.awaited = host.awaited ∧ other.due = host.due := by simpa [Host.books] using same
  exact ⟨promises ▸ backed.distinct, made'.trans backed.count, promises ▸ backed.fresh, awaited ▸ backed.awaited,
    by rw [due, promises]; exact backed.due⟩

theorem mono {others : PromiseId → ToldLine → Prop} (backed : Backed pledged made host)
    (more : ∀ id line, pledged id line → others id line) : Backed others made host where
  distinct := backed.distinct
  count := backed.count
  fresh := backed.fresh
  awaited entry member := more _ _ (backed.awaited entry member)
  due entry member :=
    let ⟨id, given, settled⟩ := backed.due entry member
    ⟨id, more _ _ given, settled⟩

/-- A promise of which something is told is made. -/
theorem ne_made (backed : Backed pledged made host) {id : PromiseId}
    (told : host.promises.state id ≠ .pending) : ∀ number, made ≤ number → .made number ≠ id := by
  rintro number later rfl
  exact told (backed.fresh number later)

/-- The reports that are due stay backed where another promise comes to stand elsewhere. -/
theorem due_setState (backed : Backed pledged made host) {id : PromiseId}
    (unsettled : host.promises.settlement? id = none) (state : PromiseState) :
    ∀ entry ∈ host.due, ∃ other, pledged other entry.1 ∧
      (host.promises.setState id state).settlement? other = some entry.2 := by
  intro entry member
  obtain ⟨other, given, settled⟩ := backed.due entry member
  -- A report that is due is of a promise that is settled, so of another one.
  have different : other ≠ id := by
    rintro rfl
    cases settled.symm.trans unsettled
  exact ⟨other, given, (Promises.settlement?_setState_of_ne _ different _).trans settled⟩

/-- Where a promise that is not settled stands is noted. -/
theorem setPromise (backed : Backed pledged made host) {id : PromiseId}
    (unsettled : host.promises.settlement? id = none) (used : ∀ number, made ≤ number → .made number ≠ id)
    (state : PromiseState) : Backed pledged made (host.setPromise id state) := by
  have fresh : ∀ number, made ≤ number → (host.promises.setState id state).state (.made number) = .pending :=
    fun number later => (Promises.state_setState_of_ne _ (used number later) _).trans (backed.fresh number later)
  have others := backed.due_setState unsettled state
  cases state with
  | settled settlement =>
    refine ⟨backed.distinct.setState id _, backed.count, fresh, fun entry member => ?_, fun entry member => ?_⟩
    · exact backed.awaited entry (List.mem_of_mem_filter member)
    · rcases List.mem_append.mp member with earlier | now
      · exact others entry earlier
      · obtain ⟨⟨same, line⟩, waits, rfl⟩ := List.mem_map.mp now
        obtain ⟨waited, here⟩ := List.mem_filter.mp waits
        obtain rfl : same = id := by simpa using here
        refine ⟨same, backed.awaited _ waited, ?_⟩
        simp [Host.setPromise, Host.settlePromise, Promises.settlement?]
  | pending | following | adopting =>
    exact ⟨backed.distinct.setState id _, backed.count, fresh, backed.awaited, others⟩

/-- A promise is decided that may be. -/
theorem decide (backed : Backed pledged made host) {id : PromiseId} {mayDecide : PromiseState → Bool}
    (unsettled : mayDecide (host.promises.state id) = true → host.promises.settlement? id = none)
    (used : mayDecide (host.promises.state id) = true → ∀ number, made ≤ number → .made number ≠ id)
    (settlement : Settlement) : Backed pledged made (host.decide id mayDecide settlement) := by
  unfold Host.decide
  split
  · next may => exact backed.setPromise (unsettled may) (used may) _
  · exact backed

/-- The script decides a promise. -/
theorem decide_told (backed : Backed pledged made host) (number : Nat) (settlement : Settlement) :
    Backed pledged made (host.decide (.told number) PromiseState.isPending settlement) := by
  refine backed.decide (fun pending => ?_) (fun _ _ _ same => by cases same) settlement
  rw [Promises.settlement?]
  cases stands : host.promises.state (.told number) with
  | pending | following | adopting => rfl
  | settled => rw [stands] at pending; cases pending

/-- An object calls the promise back that adopts it. -/
theorem callBack (backed : Backed pledged made host) (id : PromiseId) (settlement : Settlement) :
    Backed pledged made (host.decide id PromiseState.isAdopting settlement) := by
  have standing (adopting : (host.promises.state id).isAdopting = true) : host.promises.state id = .adopting := by
    cases stands : host.promises.state id with
    | adopting => rfl
    | pending | following | settled => rw [stands] at adopting; cases adopting
  refine backed.decide (fun adopting => ?_) (fun adopting => backed.ne_made ?_) settlement
  · rw [Promises.settlement?, standing adopting]
  · simp [standing adopting]

/-- Promises that follow others are settled one after the other. -/
theorem settleAll (backed : Backed pledged made host) (followers : List (PromiseId × Settlement))
    (once : (followers.map (·.1)).Nodup)
    (standing : ∀ follower ∈ followers, ∃ other, host.promises.state follower.1 = .following other) :
    Backed pledged made (followers.foldl (fun host (id, settlement) => host.settlePromise id settlement) host) := by
  induction followers generalizing host with
  | nil => exact backed
  | cons follower followers ih =>
    obtain ⟨fresh, rest⟩ := List.nodup_cons.mp once
    obtain ⟨⟨leader, follows⟩, others⟩ := List.forall_mem_cons.mp standing
    have unsettled : host.promises.settlement? follower.1 = none := by rw [Promises.settlement?, follows]
    have told : host.promises.state follower.1 ≠ .pending := by simp [follows]
    refine ih (backed.setPromise unsettled (backed.ne_made told) (.settled follower.2)) rest
      fun other member => ?_
    have different : other.1 ≠ follower.1 := fun same => fresh (List.mem_map.mpr ⟨other, member, same⟩)
    obtain ⟨leader, stands⟩ := others other member
    exact ⟨leader, (Promises.state_setState_of_ne _ different _).trans stands⟩

theorem settleFollowers (backed : Backed pledged made host) (fuel : Nat) :
    Backed pledged made (Host.settleFollowers fuel host) := by
  induction fuel generalizing host with
  | zero => exact backed
  | succ fuel ih =>
    obtain ⟨once, standing⟩ := backed.distinct.followers
    exact ih (backed.settleAll _ once standing)

theorem deliver (backed : Backed pledged made host) : Backed pledged made host.deliver := by
  have followed := backed.settleFollowers host.promises.length
  have answered : Backed pledged made (Host.settleFollowers host.promises.length host).answered :=
    ⟨followed.distinct, followed.count, followed.fresh, followed.awaited, nofun⟩
  rw [Host.deliver, Host.sendDue_eq]
  exact answered.of_books (Host.books_endIfDrained _)

/-- A promise that has been given is waited for. -/
theorem await (backed : Backed pledged made host) {id : PromiseId} {line : ToldLine} (given : pledged id line) :
    Backed pledged made (host.await line id) := by
  unfold Host.await
  split
  · next settlement settled =>
    refine ⟨backed.distinct, backed.count, backed.fresh, backed.awaited, fun entry member => ?_⟩
    rcases List.mem_append.mp member with earlier | now
    · exact backed.due entry earlier
    · rw [List.mem_singleton.mp now]
      exact ⟨id, given, settled⟩
  · refine ⟨backed.distinct, backed.count, backed.fresh, fun entry member => ?_, backed.due⟩
    rcases List.mem_append.mp member with earlier | now
    · exact backed.awaited entry earlier
    · rw [List.mem_singleton.mp now]
      exact given

/-- One more promise is made. -/
theorem adopt (backed : Backed pledged made host) : Backed pledged (made + 1) host.adopt := by
  have next : host.promises.state (.made host.made) = .pending := backed.fresh host.made backed.count.ge
  have unsettled : host.promises.settlement? (.made host.made) = none := by rw [Promises.settlement?, next]
  refine ⟨backed.distinct.setState _ _, congrArg (· + 1) backed.count, fun number later => ?_, backed.awaited,
    backed.due_setState unsettled _⟩
  have different : PromiseId.made number ≠ .made host.made := by
    rintro same
    have := PromiseId.made.inj same
    have := backed.count
    omega
  exact (Promises.state_setState_of_ne _ different _).trans (backed.fresh number (by omega))

/-- A value that is reported has been given if it is waited for. -/
theorem report (backed : Backed pledged made host) {line : ToldLine} {value : Value}
    (given : ∀ id, awaitedAs? made value = some id → pledged id line) :
    Backed pledged (if isAdoptable value then made + 1 else made) (host.report line value) := by
  by_cases adopts : isAdoptable value = true
  · obtain ⟨reported, awaited⟩ := Host.report_of_isAdoptable adopts
    rw [if_pos adopts, reported, backed.count]
    exact backed.adopt.await (given _ (awaited made))
  · rw [if_neg adopts]
    cases value with
    | missing => exact backed
    | promise number => exact backed.await (given _ rfl)
    | _ =>
      dsimp only [Host.report]
      split
      · next thenable => exact absurd thenable adopts
      · exact backed.of_books rfl

/-- A value that answers an evaluation is reported on its line. -/
theorem complete (backed : Backed pledged made host) (number : Nat) {line : ToldLine} {answer : Answer}
    (given : ∀ value id, answer = .value value → awaitedAs? made value = some id → pledged id line) :
    Backed pledged (if answer.adopts then made + 1 else made) (host.complete number line answer).1 := by
  cases answer with
  | recoverable => exact backed.of_books (Host.books_settle ..)
  | value value =>
    have reported := backed.report fun id awaited => given value id rfl awaited
    exact reported.of_books (Host.books_settle ..)
  | error thrown =>
    refine backed.of_books ?_
    rw [Host.complete]
    split
    · split
      · exact Host.books_settle ..
      · rfl
    · exact Host.books_settle ..
  | unreportable counted thrown => cases counted <;> exact backed.of_books rfl

end Backed

namespace Docket

variable {docket : Docket} {host : Host}

/-- The line of an evaluation is the one that the docket tells. -/
theorem Tells.lineOf? (tells : docket.Tells host.desk) (number : Nat) :
    docket.lineOf? number = host.evaluations[number]?.map (·.line) := by
  rw [tells.getElem?_evaluations, Option.map_map]
  rfl

end Docket

/-- What an event leaves with the host is backed by the answers up to it. -/
theorem Backed.note {events : List HostEvent} {host : Host}
    (backed : Backed (Pledged events) (adoptions events) host)
    (tells : (Docket.ofEvents events).Tells host.desk) (event : HostEvent) :
    Backed (Pledged (events ++ [event])) (adoptions (events ++ [event])) (host.happen event) := by
  have kept : Backed (Pledged (events ++ [event])) (adoptions events) host :=
    backed.mono fun _ _ given => given.concat event
  -- Where nothing is answered, nothing is adopted.
  have plain {next : Host} (silent : (Docket.ofEvents events).answer? event = none)
      (same : Backed (Pledged (events ++ [event])) (adoptions events) next) :
      Backed (Pledged (events ++ [event])) (adoptions (events ++ [event])) next := by
    rwa [adoptions_concat, Docket.adopts, silent, Option.any_none, if_neg Bool.false_ne_true]
  have answered : ∀ number answer, (Docket.ofEvents events).answer? event = some (number, answer) →
      Backed (Pledged (events ++ [event])) (adoptions (events ++ [event])) (host.takeAnswer number answer).1 := by
    intro number answer answers
    have line := tells.lineOf? number
    rw [Host.takeAnswer, adoptions_concat, Docket.adopts_of_answer answers]
    cases asked : host.evaluations[number]? with
    | none =>
      rw [asked] at line
      rw [line]
      exact kept
    | some evaluation =>
      rw [asked] at line
      rw [line, Option.map_some, Option.isSome_some, Bool.true_and]
      refine kept.complete number fun value id same awaited =>
        ⟨events, event, List.prefix_refl _, number, value, ?_, line, awaited⟩
      rw [answers, same]
  cases event with
  | act action =>
    cases action with
    | answer answer =>
      rw [Host.happen, Host.act, tells.length_evaluations]
      exact answered _ answer rfl
    | answerTo number answer => exact answered number answer rfl
    | print text =>
      refine plain rfl (kept.of_books ?_)
      rw [Host.happen, Host.act, Host.takePrinted]
      split
      · split
        · exact Host.books_settle ..
        · rfl
      · rfl
    | write text next => cases next <;> exact plain rfl (kept.of_books rfl)
    | log function line arguments =>
      refine plain rfl ?_
      rw [Host.happen, Host.act]
      split <;> exact kept.of_books rfl
    | decide number settlement => exact plain rfl (kept.decide_told number settlement)
    | callBack id settlement => exact plain rfl (kept.callBack id settlement)
    | throw | surface => exact plain rfl (kept.of_books rfl)
  | start command => exact plain rfl (kept.of_books (host.popped.books_begin command))
  | deliver => exact plain rfl kept.deliver
  | surface => exact plain rfl (kept.of_books host.books_surfaceAll)
  | arrive | garble | close | plan | comeBack | drop => exact plain rfl (kept.of_books rfl)

/-- **What a host keeps of promises is backed by answers**, at every moment. -/
theorem Host.backed_after {version : String} {setup : HostSetup} {events : List HostEvent}
    (admitted : (start version setup).Admits events) :
    Backed (Pledged events) (adoptions events) ((start version setup).after events) := by
  refine admitted.induction
    (motive := fun events => Backed (Pledged events) (adoptions events) ((start version setup).after events))
    ⟨List.nodup_nil, rfl, fun _ _ => rfl, nofun, nofun⟩ fun before event earlier _ backed => ?_
  rw [after_append]
  exact backed.note (tells_after earlier) event

/-! ## Messages and their origin -/

/-- Why a message is sent with an event that follows others. -/
inductive Comes (events : List HostEvent) (event : HostEvent) (host next : Host) : Message → Prop where
  /-- Some text is printed: it belongs to the evaluation that was asked for last. -/
  | printed (text : String) : Comes events event host next (.output (Docket.ofEvents events).latestLine text)
  /-- An evaluation is answered with a value. -/
  | value {number : Nat} {value : Value} {line : ToldLine}
    (answers : (Docket.ofEvents events).answer? event = some (number, .value value))
    (asked : (Docket.ofEvents events).lineOf? number = some line) :
    Comes events event host next (.result line (host.describer.ofValue value))
  /-- An evaluation is answered with an error. -/
  | error {number : Nat} {thrown : Value} {line : ToldLine} {descriptor : ErrorDescriptor}
    (answers : (Docket.ofEvents events).answer? event = some (number, .error thrown))
    (asked : (Docket.ofEvents events).lineOf? number = some line)
    (described : host.describer.ofThrown thrown = .ok descriptor) :
    Comes events event host next (.error line descriptor)
  /-- A promise is fulfilled with which an evaluation was answered, or which adopts the object of the answer. -/
  | fulfilled {id : PromiseId} {value : Value} {line : ToldLine} (delivers : event = .deliver)
    (given : Pledged events id line) (settled : next.promises.settlement? id = some (.fulfilled value)) :
    Comes events event host next (.result line (next.describer.ofValue value))
  /-- A promise is rejected with which an evaluation was answered, or which adopts the object of the answer. -/
  | rejected {id : PromiseId} {reason : Value} {line : ToldLine} {descriptor : ErrorDescriptor}
    (delivers : event = .deliver) (given : Pledged events id line)
    (settled : next.promises.settlement? id = some (.rejected reason))
    (described : next.describer.ofThrown reason = .ok descriptor) :
    Comes events event host next (.error line descriptor)
  /-- An uncaught error is reported while the last evaluation, which is not over, is being asked for. -/
  | uncaught {text : String} {last : Portion} (prints : event = .act (.print text))
    (calling : (Docket.ofEvents events).calling = true) (opens : UncaughtReport.opens text.toList = true)
    (asked : (Docket.ofEvents events).portions.getLast? = some last) (going : last.outcome = none) :
    Comes events event host next (.error last.line (UncaughtReport.describe text.toList))
  /-- The end of the input cuts off a statement. -/
  | cutOff {command : Json} {first : Portion} {others : List Portion} (begins : event = .start command)
    (reads : Host.Request.read command = .finish)
    (goesOn : openPortions (Docket.ofEvents events).portions = first :: others) :
    Comes events event host next (.error first.line (Host.cutOffError (statementText (first :: others))))
  /-- The host is drained. -/
  | drained : Comes events event host next .drained

/-- Between two moments a host sends only messages that have a reason. -/
def Host.Adds (host next : Host) (reason : Message → Prop) : Prop :=
  ∃ messages, next.sent = host.sent ++ messages ∧ ∀ message ∈ messages, reason message

namespace Host

variable {host next : Host} {reason : Message → Prop}

theorem adds_nothing (same : next.sent = host.sent) : host.Adds next reason :=
  ⟨[], by rw [same, List.append_nil], nofun⟩

theorem adds_message {message : Message} (sent : next.sent = host.sent ++ [message]) (why : reason message) :
    host.Adds next reason :=
  ⟨[message], sent, fun _ member => List.mem_singleton.mp member ▸ why⟩

theorem sent_settle (host : Host) (number : Nat) (keepsText : Bool) :
    (host.settle number keepsText).sent = host.sent :=
  judge_keeps sent (fun _ _ _ _ => rfl) host (some (number, keepsText))

theorem sent_decide (host : Host) (id : PromiseId) (mayDecide : PromiseState → Bool) (settlement : Settlement) :
    (host.decide id mayDecide settlement).sent = host.sent := by
  unfold decide
  split
  · cases Promises.resolution id settlement <;> rfl
  · rfl

theorem sent_await (host : Host) (line : ToldLine) (id : PromiseId) : (host.await line id).sent = host.sent := by
  unfold await
  split <;> rfl

/-- A value that is reported is sent unless it is missing or something to wait for. -/
theorem sent_report (host : Host) (line : ToldLine) (value : Value) :
    (host.report line value).sent = host.sent ∨
      (host.report line value).sent = host.sent ++ [.result line (host.describer.ofValue value)] := by
  unfold report
  split
  · exact .inl rfl
  · exact .inl (sent_await ..)
  · split
    · exact .inl (host.adopt.sent_await line _)
    · exact .inr rfl

/-- What comes to the surface is printed. -/
theorem sent_surfaceAll (host : Host) :
    ∃ texts : List String, host.surfaceAll.sent = host.sent ++ texts.map (.output host.currentLine) := by
  have printed : ∀ (thrown : List Value) (other : Host), other.currentLine = host.currentLine →
      ∃ texts : List String,
        (thrown.foldl sendSurfaced other).sent = other.sent ++ texts.map (.output host.currentLine) := by
    intro thrown
    induction thrown with
    | nil => exact fun other _ => ⟨[], (List.append_nil _).symm⟩
    | cons first thrown ih =>
      intro other same
      obtain ⟨texts, sent⟩ := ih (other.sendSurfaced first) same
      refine ⟨other.surfaceText first :: texts, ?_⟩
      rw [List.foldl_cons, sent, List.map_cons, ← same]
      simp [sendSurfaced, sendOutput]
  exact printed host.unhandled host rfl

/-- That the host is drained may be said behind everything else. -/
theorem Adds.endIfDrained (added : host.Adds next reason) (drained : reason .drained) :
    host.Adds next.endIfDrained reason := by
  obtain ⟨messages, sent, reasons⟩ := added
  unfold Host.endIfDrained
  split
  · refine ⟨messages ++ [.drained], ?_, fun message member => ?_⟩
    · rw [← List.append_assoc, ← sent]
      rfl
    · rcases List.mem_append.mp member with earlier | last
      · exact reasons message earlier
      · exact List.mem_singleton.mp last ▸ drained
  · exact ⟨messages, sent, reasons⟩

@[simp] theorem describer_endIfDrained (host : Host) : host.endIfDrained.describer = host.describer := by
  unfold endIfDrained
  split <;> rfl

end Host

section Reasons

variable {events : List HostEvent} {host : Host}

/-- The answer of a promise that an evaluation was answered with has a reason. -/
theorem Comes.of_settled {next : Host} {id : PromiseId} {line : ToldLine} {settlement : Settlement}
    {message : Message} (given : Pledged events id line)
    (stands : next.promises.settlement? id = some settlement)
    (answers : next.answerTo line settlement = some message) : Comes events .deliver host next message := by
  cases settlement with
  | fulfilled value =>
    rw [Host.answerTo] at answers
    split at answers
    · cases answers
    · rw [← Option.some.inj answers]
      exact .fulfilled rfl given stands
  | rejected reason =>
    rw [Host.answerTo] at answers
    cases described : next.describer.ofThrown reason with
    | error fault =>
      rw [described] at answers
      cases answers
    | ok descriptor =>
      rw [described] at answers
      rw [← Option.some.inj answers]
      exact .rejected rfl given stands described
  | unreadable => cases answers

/-- What is delivered has a reason. -/
theorem Backed.adds_deliver {made : Nat} (backed : Backed (Pledged events) made host) :
    host.Adds host.deliver (Comes events .deliver host host.deliver) := by
  -- First the promises that follow others are settled, which sends nothing; then every report is sent.
  obtain ⟨followed, same⟩ : ∃ followed, Host.settleFollowers host.promises.length host = followed := ⟨_, rfl⟩
  have settled : Backed (Pledged events) made followed := same ▸ backed.settleFollowers _
  have sent : followed.sent = host.sent := same ▸ Host.settleFollowers_keeps Host.sent (fun _ _ _ => rfl) _ _
  have delivered : host.deliver = followed.answered.endIfDrained := by rw [Host.deliver, same, Host.sendDue_eq]
  have promises : host.deliver.promises = followed.promises := by
    rw [delivered]
    exact congrArg (·.1) (Host.books_endIfDrained followed.answered)
  have describer : host.deliver.describer = followed.describer := by
    rw [delivered, Host.describer_endIfDrained]
    rfl
  have added : host.Adds followed.answered (Comes events .deliver host host.deliver) := by
    refine ⟨followed.due.filterMap fun answer => followed.answerTo answer.1 answer.2, ?_, ?_⟩
    · rw [← sent]
      rfl
    · intro message answers
      obtain ⟨⟨line, settlement⟩, due, answer⟩ := List.mem_filterMap.mp answers
      obtain ⟨id, given, stands⟩ := settled.due _ due
      have alike : host.deliver.answerTo line settlement = followed.answerTo line settlement := by
        rw [Host.answerTo.eq_def, Host.answerTo.eq_def, describer]
      exact .of_settled given (promises ▸ stands) (alike.trans answer)
  have drained := added.endIfDrained .drained
  rwa [← delivered] at drained

/-- What an answer makes a host send has a reason. -/
theorem adds_takeAnswer {event : HostEvent} {next : Host} {number : Nat} {answer : Answer}
    (tells : (Docket.ofEvents events).Tells host.desk)
    (answers : (Docket.ofEvents events).answer? event = some (number, answer)) :
    host.Adds (host.takeAnswer number answer).1 (Comes events event host next) := by
  rw [Host.takeAnswer]
  cases found : host.evaluations[number]? with
  | none => exact Host.adds_nothing rfl
  | some evaluation =>
    have asked : (Docket.ofEvents events).lineOf? number = some evaluation.line := by
      rw [tells.lineOf?, found, Option.map_some]
    cases answer with
    | recoverable => exact Host.adds_nothing (Host.sent_settle ..)
    | value value =>
      rcases host.sent_report evaluation.line value with silent | sent
      · exact Host.adds_nothing ((Host.sent_settle ..).trans silent)
      · exact Host.adds_message ((Host.sent_settle ..).trans sent) (.value answers asked)
    | error thrown =>
      dsimp only [Host.complete]
      split
      · split
        · rename_i descriptor described
          exact Host.adds_message (Host.sent_settle ..) (.error answers asked described)
        · exact Host.adds_nothing rfl
      · exact Host.adds_nothing (Host.sent_settle ..)
    | unreportable counted thrown => cases counted <;> exact Host.adds_nothing rfl

/-- What the interpreter prints is sent with a reason. -/
theorem adds_takePrinted {next : Host} {text : String} (tells : (Docket.ofEvents events).Tells host.desk) :
    host.Adds (host.takePrinted text) (Comes events (.act (.print text)) host next) := by
  have line : host.currentLine = (Docket.ofEvents events).latestLine := tells.currentLine
  have asking : host.asking = (Docket.ofEvents events).calling := tells.asking
  have output : host.Adds (host.sendOutput text) (Comes events (.act (.print text)) host next) :=
    Host.adds_message rfl (line ▸ .printed text)
  rw [Host.takePrinted]
  rcases tells.phase with rests | ⟨earlier, last, runs⟩
  · have none : host.settler = none := rests.settler
    rw [none]
    exact output
  · have number : host.settler = some earlier.length := runs.settler
    have stands : (Docket.ofEvents events).portions.getLast? = some last := by
      rw [runs.portions, List.getLast?_concat]
    have current : host.currentLine = last.line := by rw [line, Docket.latestLine, stands]; rfl
    rw [number]
    dsimp only
    split
    · rename_i reports
      obtain ⟨calling, opens⟩ := (Bool.and_eq_true _ _).mp reports
      refine Host.adds_message (Host.sent_settle ..) ?_
      rw [current]
      exact .uncaught rfl (asking ▸ calling) opens stands runs.going
    · exact output

/-- What a command that starts makes a host send has a reason. -/
theorem adds_begin {before next : Host} {command : Json} (tells : (Docket.ofEvents events).Tells host.desk)
    (rests : (Docket.ofEvents events).Rests host.desk) :
    host.Adds (host.begin command) (Comes events (.start command) before next) := by
  have line : host.currentLine = (Docket.ofEvents events).latestLine := tells.currentLine
  rw [Host.begin, Host.handle]
  cases reads : Host.Request.read command with
  | evaluate | exit | broken => exact Host.adds_nothing rfl
  | unknown name => exact Host.adds_message rfl (line ▸ .printed _)
  | finish =>
    have finished : host.Adds host.finished (Comes events (.start command) before next) := by
      refine ⟨_, Host.sent_finished rests, fun message member => ?_⟩
      rw [cutOffMessages] at member
      split at member
      · exact absurd member List.not_mem_nil
      · rename_i first others goesOn
        rw [List.mem_singleton.mp member]
        exact .cutOff rfl reads goesOn
    exact finished.endIfDrained .drained

/-- **What is sent with an event has a reason.** -/
theorem adds_happen {event : HostEvent} (tells : (Docket.ofEvents events).Tells host.desk)
    {made : Nat} (backed : Backed (Pledged events) made host) (allowed : host.Allows event) :
    host.Adds (host.happen event) (Comes events event host (host.happen event)) := by
  have line : host.currentLine = (Docket.ofEvents events).latestLine := tells.currentLine
  cases event with
  | act action =>
    cases action with
    | answer answer =>
      refine adds_takeAnswer tells ?_
      rw [Docket.answer?, tells.length_evaluations]
    | answerTo number answer => exact adds_takeAnswer tells rfl
    | print text => exact adds_takePrinted tells
    | write text other =>
      cases other with
      | none => exact Host.adds_message rfl (line ▸ .printed text)
      | some other =>
        refine ⟨[.output host.currentLine text, .output host.currentLine other], List.append_assoc .., ?_⟩
        rw [line]
        simp [Comes.printed]
    | log function told arguments =>
      rw [Host.happen, Host.act]
      split
      · exact Host.adds_message rfl (line ▸ .printed _)
      · exact Host.adds_nothing rfl
    | decide | callBack => exact Host.adds_nothing (Host.sent_decide ..)
    | surface thrown => exact Host.adds_message rfl (line ▸ .printed _)
    | throw => exact Host.adds_nothing rfl
  | start command =>
    have popped : (Docket.ofEvents events).Tells host.popped.desk := tells.of_waiting _
    exact adds_begin popped (popped.rests allowed.2.1)
  | deliver => exact backed.adds_deliver
  | surface =>
    obtain ⟨texts, sent⟩ := host.sent_surfaceAll
    refine ⟨_, sent, fun message member => ?_⟩
    obtain ⟨text, -, rfl⟩ := List.mem_map.mp member
    exact line ▸ .printed text
  | garble text => exact Host.adds_message rfl (line ▸ .printed _)
  | arrive | close | plan | comeBack | drop => exact Host.adds_nothing rfl

end Reasons

/-- **Every message belongs to a line that was told.** Whatever commands a host is given and whatever the
interpreter does, with each event the host sends only messages that have a reason, each on the line of its
reason: the line of the evaluation that was answered, however late the answer or the settlement of its promise
is; of the evaluation that is being asked for; of the first portion of the statement that is cut off; and what
is printed on the line of the evaluation that was asked for last. An object of an answer that has a method of its
own to wait by is adopted by a promise that is made for it alone, so that its settlement belongs to one line. -/
theorem host_messages_have_reasons (version : String) (setup : HostSetup) :
    let start := Host.start version setup
    (∀ history, start.after (start.chronicle history) = start.steps history ∧
      start.Admits (start.chronicle history)) ∧
    start.sent = [.ready version] ∧
    ∀ events event, start.Admits (events ++ [event]) →
      let host := start.after events
      let next := start.after (events ++ [event])
      host.Adds next (Comes events event host next) ∧
      ∀ number line other, Pledged events (.made number) line → Pledged events (.made number) other → line = other := by
  intro start
  refine ⟨Host.chronicle_spec rfl, rfl, fun events event admitted => ⟨?_, fun _ _ _ => Pledged.unique⟩⟩
  obtain ⟨earlier, allowed, -⟩ := Host.admits_append.mp admitted
  have added := adds_happen (Host.tells_after earlier) (Host.backed_after earlier) allowed
  rwa [Host.after_append, Host.after_cons, Host.after_nil]

/-- A promise is settled when the evaluation that gave it is long over, and its value is sent for a reason. -/
theorem host_messages_have_reasons_of_late_promise :
    let start := Host.start "v20.11.0" ⟨some 2, ["log"]⟩
    let events := [.arrive (evalCommand 1 "p"), .start (evalCommand 1 "p"),
      .act (.answer (.value (.promise 0))), .comeBack none, .arrive (evalCommand 2 "q"),
      .start (evalCommand 2 "q"), .act (.answer .recoverable), .comeBack none,
      .act (.decide 0 (.fulfilled (.text "late")))]
    let host := start.after events
    let next := start.after (events ++ [.deliver])
    start.Admits (events ++ [.deliver]) ∧ host.Adds next (Comes events .deliver host next) ∧
      host.sent.map (·.type?) = [some .ready] ∧ next.sent.map (·.type?) = [some .ready, some .result] := by
  intro start events host next
  have admitted : start.Admits (events ++ [.deliver]) :=
    ⟨trivial, ⟨rfl, rfl, rfl, rfl⟩, trivial, rfl, trivial, ⟨rfl, rfl, rfl, rfl⟩, trivial, rfl, trivial, trivial,
      trivial⟩
  obtain ⟨-, -, reasons⟩ := host_messages_have_reasons "v20.11.0" ⟨some 2, ["log"]⟩
  exact ⟨admitted, (reasons events .deliver admitted).1, by decide +kernel, by decide +kernel⟩

end Marginalia
