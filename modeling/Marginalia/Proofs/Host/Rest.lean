import Marginalia.Proofs.Host.Past
import Marginalia.Proofs.Host.Provenance

/-! # Hosts at rest
Delivering settles all promises that follow settled ones, however many stand in a row: each of them is a link
(`Script.Promises.isLink`), and settling one leaves fewer. So after it nothing is left to deliver
(`Host.Quiet`), and delivering once more does nothing. Between the steps of a history a host is at rest
(`Host.AtRest`): nothing is left to deliver, and nothing waits to come to the surface. -/

namespace Marginalia

open Script

/-! ## Promises that follow others -/

namespace Script.Promises

/-- Whether a promise follows another one. -/
def isLink : PromiseId × PromiseState → Bool
  | (_, .following _) => true
  | _ => false

/-- How many promises follow other ones. -/
def links (promises : Promises) : Nat := promises.countP isLink

/-- A promise that follows a settled one is a link. -/
theorem exists_link_of_mem_followers {promises : Promises} {follower : PromiseId × Settlement}
    (member : follower ∈ promises.followers) :
    ∃ entry ∈ promises, entry.1 = follower.1 ∧ isLink entry = true := by
  rw [followers_eq] at member
  obtain ⟨⟨id, state⟩, inside, follows⟩ := List.mem_filterMap.mp member
  obtain ⟨same, other, link⟩ := follow?_eq_some follows
  refine ⟨(id, state), List.mem_reverse.mp inside, same.symm, ?_⟩
  dsimp only at link
  rw [link]
  rfl

theorem followers_eq_nil_of_links {promises : Promises} (none : promises.links = 0) :
    promises.followers = [] := by
  apply List.eq_nil_iff_forall_not_mem.mpr
  intro follower member
  obtain ⟨entry, inside, -, link⟩ := exists_link_of_mem_followers member
  exact absurd link (List.countP_eq_zero.mp none entry inside)

/-- The links that are left when a promise is settled are those of the others. -/
theorem links_setState (promises : Promises) (id : PromiseId) (settlement : Settlement) :
    (promises.setState id (.settled settlement)).links = (promises.filter (·.1 != id)).countP isLink := by
  rw [links, setState, List.countP_cons_of_neg (by simp [isLink])]

/-- Settling a promise makes no link. -/
theorem links_setState_le (promises : Promises) (id : PromiseId) (settlement : Settlement) :
    (promises.setState id (.settled settlement)).links ≤ promises.links := by
  rw [links_setState]
  exact List.filter_sublist.countP_le

/-- Settling a promise that follows another one unmakes its link. -/
theorem links_setState_lt {promises : Promises} {id : PromiseId} (settlement : Settlement)
    (link : ∃ entry ∈ promises, entry.1 = id ∧ isLink entry = true) :
    (promises.setState id (.settled settlement)).links < promises.links := by
  obtain ⟨entry, inside, same, link⟩ := link
  have parts := List.countP_eq_countP_filter_add promises isLink (·.1 != id)
  have dropped : 0 < (promises.filter fun entry => !(entry.1 != id)).countP isLink :=
    List.countP_pos_iff.mpr ⟨entry, List.mem_filter.mpr ⟨inside, by simp [same]⟩, link⟩
  rw [links_setState, links]
  omega

end Script.Promises

namespace Host

variable {host : Host}

/-- Settling promises one after the other makes no link. -/
theorem links_settleAll (followers : List (PromiseId × Settlement)) (host : Host) :
    (followers.foldl (fun host (id, settlement) => host.settlePromise id settlement) host).promises.links ≤
      host.promises.links := by
  induction followers generalizing host with
  | nil => exact Nat.le_refl _
  | cons follower followers ih =>
    exact (ih _).trans (host.promises.links_setState_le follower.1 follower.2)

theorem settleFollowers_of_none (none : host.promises.followers = []) (fuel : Nat) :
    settleFollowers fuel host = host := by
  induction fuel with
  | zero => rfl
  | succ fuel ih =>
    rw [settleFollowers, none]
    exact ih

/-- With fuel for each promise that follows another one, all that can be settled are settled. -/
theorem followers_settleFollowers {fuel : Nat} (enough : host.promises.links ≤ fuel) :
    (settleFollowers fuel host).promises.followers = [] := by
  induction fuel generalizing host with
  | zero => exact Promises.followers_eq_nil_of_links (Nat.le_zero.mp enough)
  | succ fuel ih =>
    cases follows : host.promises.followers with
    | nil => rw [settleFollowers_of_none follows, follows]
    | cons follower followers =>
      rw [settleFollowers, follows]
      apply ih
      -- The first follower is a link no more, and the others make none: one link of the fuel is used up.
      have link := Promises.exists_link_of_mem_followers (follows ▸ List.mem_cons_self : follower ∈ _)
      have fewer := Promises.links_setState_lt follower.2 link
      have others := links_settleAll followers (host.settlePromise follower.1 follower.2)
      have less := others.trans_lt fewer
      exact Nat.le_of_lt_succ (less.trans_le enough)

/-! ## Hosts at rest -/

/-- Everything is delivered: no promise follows a settled one, no report is due, and that the host is drained is
said if it is. -/
structure Quiet (host : Host) : Prop where
  /-- No promise follows a settled one. -/
  followers : host.promises.followers = []
  /-- No report is due. -/
  due : host.due = []
  /-- If the host is drained, it said so. -/
  told : (host.ended && host.pending == 0 && !host.drained) = false

theorem quiet_deliver (host : Host) : host.deliver.Quiet where
  followers := by
    have enough : host.promises.links ≤ host.promises.length := List.countP_le_length
    have same : host.deliver.promises = (settleFollowers host.promises.length host).promises := by
      rw [deliver, sendDue_eq]
      exact congrArg (·.1) (books_endIfDrained _)
    rw [same]
    exact followers_settleFollowers enough
  due := host.due_deliver
  told := by
    rw [deliver, sendDue_eq, endIfDrained]
    split
    · simp [send]
    · rename_i unsaid
      exact Bool.eq_false_iff.mpr unsaid

/-- Where everything is delivered, delivering does nothing. -/
theorem Quiet.deliver_eq (quiet : host.Quiet) : host.deliver = host := by
  have answered : host.answered = { host with due := [] } := by
    simp [answered, sendAll, quiet.due]
  have same : { host with due := [] } = host := by
    rw [← quiet.due]
  rw [deliver, settleFollowers_of_none quiet.followers, sendDue_eq, answered, same, endIfDrained, quiet.told]
  rfl

section Kept

variable (quiet : host.Quiet)

include quiet

/-! What is delivered has nothing to do with printed texts, with what waits, or with what nothing handled. -/

theorem Quiet.sendOutput (text : String) : (host.sendOutput text).Quiet := ⟨quiet.followers, quiet.due, quiet.told⟩

theorem Quiet.keeping (waiting : List Json) : (host.keeping waiting).Quiet :=
  ⟨quiet.followers, quiet.due, quiet.told⟩

theorem Quiet.dropWaiting (reason : Value) : (host.dropWaiting reason).Quiet :=
  ⟨quiet.followers, quiet.due, quiet.told⟩

theorem Quiet.surfaceAll : host.surfaceAll.Quiet := by
  have all : ∀ (thrown : List Value) {host : Host}, host.Quiet → (thrown.foldl sendSurfaced host).Quiet := by
    intro thrown
    induction thrown with
    | nil => exact fun quiet => quiet
    | cons first thrown ih => exact fun quiet => ih (quiet.sendOutput _)
  have sent := all host.unhandled quiet
  exact ⟨sent.followers, sent.due, sent.told⟩

end Kept

/-- Each command is followed by a delivery, so nothing is left to deliver behind the last one. -/
theorem Quiet.advance (quiet : host.Quiet) (commands : List Json) : (host.advance commands).Quiet := by
  induction commands generalizing host with
  | nil => exact quiet.keeping []
  | cons command commands ih =>
    rw [advance_cons]
    split
    · exact quiet.dropWaiting _
    · split
      · exact quiet.keeping _
      · have after := quiet_deliver ((host.keeping commands).handle command)
        dsimp only
        split
        · exact after.dropWaiting _
        · exact ih after

/-- Everything is delivered, and what nothing handled came to the surface. -/
structure AtRest (host : Host) : Prop extends Quiet host where
  /-- Nothing waits to come to the surface. -/
  handled : host.unhandled = []

/-- When everything came to the surface, nothing waits to come there. -/
theorem Quiet.atRest_surfaceAll (quiet : host.Quiet) : host.surfaceAll.AtRest := ⟨quiet.surfaceAll, rfl⟩

/-- A step leaves a host at rest. -/
theorem AtRest.step (rests : host.AtRest) (step : HostStep) : (host.step step).AtRest := by
  cases step with
  | line text =>
    rw [Host.step, takeLine]
    split
    · exact (rests.toQuiet.advance _).atRest_surfaceAll
    · exact ⟨rests.toQuiet.sendOutput _, rests.handled⟩
  | command command => exact (rests.toQuiet.advance _).atRest_surfaceAll
  | act actions => exact ((quiet_deliver _).advance _).atRest_surfaceAll
  | schedule | close => exact ⟨⟨rests.followers, rests.due, rests.told⟩, rests.handled⟩

/-- **Between the steps of a history a host is at rest.** -/
theorem AtRest.steps (rests : host.AtRest) (history : List HostStep) : (host.steps history).AtRest := by
  induction history generalizing host with
  | nil => exact rests
  | cons step history ih => exact ih (rests.step step)

/-- Where nothing waits to come to the surface, nothing comes. -/
theorem AtRest.surfaceAll_eq (rests : host.AtRest) : host.surfaceAll = host := by
  have nothing : host.unhandled.foldl sendSurfaced host = host := by
    rw [rests.handled]
    rfl
  rw [surfaceAll, nothing, ← rests.handled]

/-- A host that is up is at rest. -/
theorem atRest_start (version : String) (setup : HostSetup) : (start version setup).AtRest :=
  ⟨⟨rfl, rfl, rfl⟩, rfl⟩

end Host

end Marginalia
