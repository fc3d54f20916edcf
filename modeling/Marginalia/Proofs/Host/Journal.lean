import Marginalia.Wire.Report
import Mathlib.Data.List.Nodup

/-! # Journals of a host
A journal tells in order what happens at a host, as far as its messages, the end of its input and the
values that it waits for go. It is complete when the end is noted and nothing is waited for (`Complete`).
In a regular journal the message that the host is drained is sent next exactly when the journal is
complete and does not tell of one yet (`Regular`); so it is sent at the first moment at which the journal is
complete, and never again (`drained_iff`). -/

namespace Marginalia

/-- What happens at a host. The values to wait for are numbered in the order in which they are reported. -/
inductive Happening where
  /-- A message is sent. -/
  | sent (message : Message)
  /-- A value to wait for is reported. -/
  | reported (number : Nat)
  /-- A value that was waited for answers, with a message unless there is nothing to say. -/
  | answered (number : Nat) (message : Option Message)
  /-- A value that was waited for is settled. -/
  | settled (number : Nat)
  /-- The end of the input is noted. -/
  | ended
  deriving Repr

/-- The message that is sent by what happens. -/
def Happening.message? : Happening → Option Message
  | .sent message => some message
  | .answered _ message => message
  | .reported _ | .settled _ | .ended => none

@[simp] theorem Happening.message?_sent (message : Message) : (sent message).message? = some message := rfl

@[simp] theorem Happening.message?_reported (number : Nat) : (reported number).message? = none := rfl

@[simp] theorem Happening.message?_ended : ended.message? = none := rfl

/-- The value to wait for that something happens to, if it is about one. -/
def Happening.number? : Happening → Option Nat
  | .reported number | .answered number _ | .settled number => some number
  | .sent _ | .ended => none

/-- The messages that a journal tells of. -/
def messagesOf (journal : List Happening) : List Message := journal.filterMap Happening.message?

@[simp] theorem messagesOf_nil : messagesOf [] = [] := rfl

@[simp] theorem messagesOf_append (first second : List Happening) :
    messagesOf (first ++ second) = messagesOf first ++ messagesOf second := List.filterMap_append

@[simp] theorem messagesOf_singleton (happening : Happening) :
    messagesOf [happening] = happening.message?.toList := by
  rw [messagesOf, List.filterMap_cons, List.filterMap_nil]
  cases happening.message? <;> rfl

/-- The end of the input is noted, and every value to wait for that was reported is settled. -/
def Complete (journal : List Happening) : Prop :=
  .ended ∈ journal ∧ ∀ number, .reported number ∈ journal → .settled number ∈ journal

/-- The host has to say that it is drained. -/
def Owes (journal : List Happening) : Prop := Complete journal ∧ .drained ∉ messagesOf journal

/-- What may happen after what is in a journal, as far as one value to wait for goes: it is reported, then
it answers, then it is settled, each once. -/
def Follows (before : List Happening) : Happening → Prop
  | .reported number => .reported number ∉ before
  | .answered number message =>
    .reported number ∈ before ∧ (∀ other, .answered number other ∉ before) ∧ message ≠ some .drained
  | .settled number => (∃ message, .answered number message ∈ before) ∧ .settled number ∉ before
  | .sent _ | .ended => True

/-- What is about no value may happen at any time. -/
theorem follows_of_number?_eq_none {before : List Happening} {next : Happening}
    (plain : next.number? = none) : Follows before next := by
  cases next with
  | sent | ended => trivial
  | reported | answered | settled => cases plain

/-- In a regular journal everything happens in its order, and the host says that it is drained just when it
has to. -/
def Regular (journal : List Happening) : Prop :=
  ∀ before next, before ++ [next] <+: journal →
    Follows before next ∧ (next.message? = some .drained ↔ Owes before)

/-! ## Growing journals -/

theorem regular_nil : Regular [] := by
  intro before next inside
  exact absurd (List.prefix_nil.mp inside) (by simp)

/-- A regular journal goes on. -/
theorem Regular.concat {journal : List Happening} (regular : Regular journal) {next : Happening}
    (follows : Follows journal next) (drains : next.message? = some .drained ↔ Owes journal) :
    Regular (journal ++ [next]) := by
  intro before other inside
  rcases List.prefix_concat_iff.mp inside with whole | earlier
  · obtain ⟨rfl, same⟩ := List.append_inj' whole rfl
    obtain rfl := List.singleton_inj.mp same
    exact ⟨follows, drains⟩
  · exact regular before other earlier

/-- A regular journal goes on with something that is not the message that the host is drained, as long as
the host does not have to say that. -/
theorem Regular.concat_other {journal : List Happening} (regular : Regular journal)
    (paid : ¬ Owes journal) {next : Happening} (follows : Follows journal next)
    (other : next.message? ≠ some .drained) : Regular (journal ++ [next]) :=
  regular.concat follows ⟨fun drains => absurd drains other, fun owes => absurd owes paid⟩

/-- What a journal tells of had to be in its order when it happened. -/
theorem Regular.follows_of_mem {journal : List Happening} (regular : Regular journal) {next : Happening}
    (member : next ∈ journal) : ∃ before, before ++ [next] <+: journal ∧ Follows before next := by
  obtain ⟨before, after, rfl⟩ := List.append_of_mem member
  have inside : before ++ [next] <+: before ++ next :: after := ⟨after, by simp⟩
  exact ⟨before, inside, (regular before next inside).1⟩

/-- What answers was reported. -/
theorem Regular.reported_of_answered {journal : List Happening} (regular : Regular journal) {number : Nat}
    {message : Option Message} (member : .answered number message ∈ journal) :
    .reported number ∈ journal := by
  obtain ⟨before, inside, reported, -⟩ := regular.follows_of_mem member
  exact inside.subset (List.mem_append_left _ reported)

/-- What is settled answered. -/
theorem Regular.answered_of_settled {journal : List Happening} (regular : Regular journal) {number : Nat}
    (member : .settled number ∈ journal) : ∃ message, .answered number message ∈ journal := by
  obtain ⟨before, inside, ⟨message, answered⟩, -⟩ := regular.follows_of_mem member
  exact ⟨message, inside.subset (List.mem_append_left _ answered)⟩

/-- A regular journal is so at every moment. -/
theorem Regular.of_isPrefix {journal part : List Happening} (regular : Regular journal)
    (inside : part <+: journal) : Regular part :=
  fun before next earlier => regular before next (earlier.trans inside)

/-! ## What the host has to say -/

/-- A message does not complete a journal. -/
theorem not_owes_concat_sent {journal : List Happening} (paid : ¬ Owes journal) (message : Message) :
    ¬ Owes (journal ++ [.sent message]) := by
  rintro ⟨⟨ended, settled⟩, unsaid⟩
  refine paid ⟨⟨by simpa using ended, fun number reported => ?_⟩, ?_⟩
  · simpa using settled number (List.mem_append_left _ reported)
  · rw [messagesOf_append, List.mem_append, not_or] at unsaid
    exact unsaid.1

/-- An answer does not complete a journal. -/
theorem not_owes_concat_answered {journal : List Happening} (paid : ¬ Owes journal) (number : Nat)
    (message : Option Message) : ¬ Owes (journal ++ [.answered number message]) := by
  rintro ⟨⟨ended, settled⟩, unsaid⟩
  refine paid ⟨⟨by simpa using ended, fun other reported => ?_⟩, ?_⟩
  · simpa using settled other (List.mem_append_left _ reported)
  · rw [messagesOf_append, List.mem_append, not_or] at unsaid
    exact unsaid.1

/-- As long as something is waited for, the host has nothing to say. -/
theorem not_owes_of_missing {journal : List Happening} {number : Nat} (reported : .reported number ∈ journal)
    (unsettled : .settled number ∉ journal) : ¬ Owes journal :=
  fun owes => unsettled (owes.1.2 number reported)

/-- Having said that it is drained, the host does not have to say so again. -/
theorem not_owes_concat_drained (journal : List Happening) : ¬ Owes (journal ++ [.sent .drained]) :=
  fun owes => owes.2 (by simp)

/-- Values that were reported answer. -/
theorem Regular.append_answers {journal : List Happening} (regular : Regular journal) (paid : ¬ Owes journal)
    {answers : List (Nat × Option Message)} (distinct : (answers.map (·.1)).Nodup)
    (reported : ∀ answer ∈ answers, .reported answer.1 ∈ journal)
    (unanswered : ∀ answer ∈ answers, ∀ other, .answered answer.1 other ∉ journal)
    (plain : ∀ answer ∈ answers, answer.2 ≠ some .drained) :
    Regular (journal ++ answers.map fun answer => .answered answer.1 answer.2) ∧
      ¬ Owes (journal ++ answers.map fun answer => .answered answer.1 answer.2) := by
  induction answers generalizing journal with
  | nil => simpa using ⟨regular, paid⟩
  | cons answer answers ih =>
    obtain ⟨firstReported, othersReported⟩ := List.forall_mem_cons.mp reported
    obtain ⟨firstUnanswered, othersUnanswered⟩ := List.forall_mem_cons.mp unanswered
    obtain ⟨firstPlain, othersPlain⟩ := List.forall_mem_cons.mp plain
    obtain ⟨new, distinct⟩ := List.nodup_cons.mp distinct
    have follows : Follows journal (.answered answer.1 answer.2) :=
      ⟨firstReported, firstUnanswered, firstPlain⟩
    have next := regular.concat_other paid follows firstPlain
    have rest := ih next (not_owes_concat_answered paid answer.1 answer.2) distinct
      (fun other member => List.mem_append_left _ (othersReported other member))
      (fun other member message inside => by
        rcases List.mem_append.mp inside with earlier | last
        · exact othersUnanswered other member message earlier
        · obtain ⟨same, -⟩ := Happening.answered.inj (List.mem_singleton.mp last)
          exact new (List.mem_map.mpr ⟨other, member, same⟩))
      othersPlain
    rwa [List.append_assoc, List.singleton_append] at rest

/-- Values that answered are settled. Only with the last of them the journal can become complete. -/
theorem Regular.append_settled {journal : List Happening} (regular : Regular journal) (paid : ¬ Owes journal)
    {numbers : List Nat} (distinct : numbers.Nodup)
    (answered : ∀ number ∈ numbers, ∃ message, .answered number message ∈ journal)
    (unsettled : ∀ number ∈ numbers, .settled number ∉ journal) :
    Regular (journal ++ numbers.map .settled) := by
  induction numbers generalizing journal with
  | nil => simpa using regular
  | cons number numbers ih =>
    obtain ⟨firstAnswered, othersAnswered⟩ := List.forall_mem_cons.mp answered
    obtain ⟨firstUnsettled, othersUnsettled⟩ := List.forall_mem_cons.mp unsettled
    obtain ⟨new, distinct⟩ := List.nodup_cons.mp distinct
    have follows : Follows journal (.settled number) := ⟨firstAnswered, firstUnsettled⟩
    have next := regular.concat_other paid follows nofun
    have still : ∀ other ∈ numbers, .settled other ∉ journal ++ [.settled number] := by
      intro other member inside
      rcases List.mem_append.mp inside with earlier | last
      · exact othersUnsettled other member earlier
      · obtain rfl := Happening.settled.inj (List.mem_singleton.mp last)
        exact new member
    rw [List.map_cons, ← List.singleton_append, ← List.append_assoc]
    cases numbers with
    | nil => simpa using next
    | cons last numbers =>
      refine ih next (not_owes_of_missing ?_ (still last List.mem_cons_self)) distinct ?_ still
      · obtain ⟨message, inside⟩ := othersAnswered last List.mem_cons_self
        exact List.mem_append_left _ (regular.reported_of_answered inside)
      · intro other member
        obtain ⟨message, inside⟩ := othersAnswered other member
        exact ⟨message, List.mem_append_left _ inside⟩

/-! ## The message that the host is drained -/

/-- The messages up to some moment, if a message is among those of a journal. -/
theorem exists_moment {journal : List Happening} {front rest : List Message} {message : Message}
    (parts : messagesOf journal = front ++ message :: rest) :
    ∃ before next, before ++ [next] <+: journal ∧ messagesOf before = front ∧
      next.message? = some message := by
  obtain ⟨first, second, rfl, inFront, behind⟩ := List.filterMap_eq_append_iff.mp parts
  obtain ⟨quiet, next, others, rfl, silent, spoken, -⟩ := List.filterMap_eq_cons_iff.mp behind
  refine ⟨first ++ quiet, next, ⟨others, by simp⟩, ?_, spoken⟩
  have nothing : messagesOf quiet = [] := List.filterMap_eq_nil_iff.mpr silent
  rw [messagesOf_append, nothing, List.append_nil]
  exact inFront

/-- The host says once that it is drained. -/
theorem Regular.drained_once {journal : List Happening} (regular : Regular journal)
    {front rest : List Message} (parts : messagesOf journal = front ++ .drained :: rest) :
    .drained ∉ front := by
  obtain ⟨before, next, inside, same, spoken⟩ := exists_moment parts
  have owes := (regular before next inside).2.mp spoken
  rw [← same]
  exact owes.2

/-- The next thing that happens after a moment that is not the last. -/
theorem exists_next {part journal : List Happening} (inside : part <+: journal) (other : part ≠ journal) :
    ∃ next, part ++ [next] <+: journal := by
  obtain ⟨rest, rfl⟩ := inside
  cases rest with
  | nil => exact absurd (List.append_nil part).symm other
  | cons next rest => exact ⟨next, rest, by simp⟩

/-- **At the first moment.** The host says that it is drained exactly when the journal is complete for the
first time. -/
theorem Regular.drained_iff {journal : List Happening} (regular : Regular journal) (paid : ¬ Owes journal)
    (before : List Happening) :
    before ++ [.sent .drained] <+: journal ↔
      before <+: journal ∧ Complete before ∧ ∀ part, part <+: before → Complete part → part = before := by
  constructor
  · intro inside
    have owes := (regular before _ inside).2.mp rfl
    refine ⟨(List.prefix_append _ _).trans inside, owes.1, fun part earlier complete => ?_⟩
    by_contra other
    obtain ⟨next, within⟩ := exists_next earlier other
    -- The host would have had to say so already, and did.
    have unsaid : .drained ∉ messagesOf part := fun member =>
      owes.2 ((earlier.filterMap Happening.message?).subset member)
    have spoken := (regular part next (within.trans ((List.prefix_append _ _).trans inside))).2.mpr
      ⟨complete, unsaid⟩
    refine owes.2 ((within.filterMap Happening.message?).subset ?_)
    simp [spoken]
  · rintro ⟨inside, complete, first⟩
    have owes : Owes before := by
      refine ⟨complete, fun member => ?_⟩
      obtain ⟨front, rest, parts⟩ := List.append_of_mem member
      obtain ⟨part, next, earlier, -, spoken⟩ := exists_moment parts
      have owed := (regular part next (earlier.trans inside)).2.mp spoken
      have same := first part ((List.prefix_append _ _).trans earlier) owed.1
      have length := earlier.length_le
      rw [same, List.length_append, List.length_singleton] at length
      omega
    have other : before ≠ journal := by
      rintro rfl
      exact paid owes
    obtain ⟨next, within⟩ := exists_next inside other
    obtain ⟨follows, drains⟩ := regular before next within
    have spoken := drains.mpr owes
    cases next with
    | sent message =>
      obtain rfl : message = .drained := Option.some.inj spoken
      exact within
    | answered number message => exact absurd spoken follows.2.2
    | reported | settled | ended => cases spoken

/-- When the host says that it is drained, everything reported until then has answered. -/
theorem Regular.answered_of_drained {journal before : List Happening} (regular : Regular journal)
    (inside : before ++ [.sent .drained] <+: journal) {number : Nat} (reported : .reported number ∈ before) :
    ∃ message, .answered number message ∈ before := by
  have owes := (regular before _ inside).2.mp rfl
  exact (regular.of_isPrefix ((List.prefix_append _ _).trans inside)).answered_of_settled
    (owes.1.2 number reported)

end Marginalia
