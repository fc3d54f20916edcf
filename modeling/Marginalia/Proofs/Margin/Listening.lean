import Marginalia.Proofs.Margin.Lines
import Mathlib.Data.List.Infix

/-! # Listening to a margin
A listener keeps only the newest annotations that it heard, so they have to be those of the margin.
What may happen to a margin is a `MarginAct`; one lemma says what an act makes the listeners hear
(`published_act`) and one what an act that tells nothing leaves as it is (`annotations_act_of_silent`).
From these, whoever listens all the time holds what the margin shows (`heard_getLast?`), and whatever is
shown or heard is well formed (`WellFormed`), whichever listeners fail at whichever moment. -/

namespace Marginalia

open Text

/-- What may happen to a margin. -/
inductive MarginAct where
  /-- An event is applied, unless the margin refuses it. -/
  | update (event : Event)
  /-- A run starts. -/
  | reset
  /-- A listener is added, perhaps once more. -/
  | listen (listener : Listener)
  /-- The listener of a name is removed once, if there is one. -/
  | unlisten (name : String)
  /-- From now on the listeners at some places fail, and the others do not. -/
  | turn (fails : Nat → Bool)

/-- Whether the listeners hear of an act. -/
def MarginAct.tells : MarginAct → Bool
  | .update event => event.classify.1.isSome
  | .reset => true
  | .listen _ | .unlisten _ | .turn _ => false

namespace Margin

/-- Apply an event, unless it is refused. -/
def offer (margin : Margin) (event : Event) : Margin × MarginReport :=
  if margin.refuses event then (margin, .none) else margin.update event

/-- The margin without the first listener of a name. -/
def unlisten (margin : Margin) (name : String) : Margin :=
  match margin.listeners.find? (·.name == name) with
  | none => margin
  | some listener => margin.removeListener listener

/-- The margin with other listeners that fail. -/
def turn (margin : Margin) (fails : Nat → Bool) : Margin :=
  { margin with
    listeners := margin.listeners.mapIdx fun place listener => { listener with fails := fails place } }

/-- The margin after an act, and what came of it. -/
def act (margin : Margin) : MarginAct → Margin × MarginReport
  | .update event => margin.offer event
  | .reset => margin.reset
  | .listen listener => (margin.addListener listener, .none)
  | .unlisten name => (margin.unlisten name, .none)
  | .turn fails => (margin.turn fails, .none)

/-- The margin after some acts in order. -/
def afterActs (margin : Margin) (acts : List MarginAct) : Margin :=
  acts.foldl (fun margin act => (margin.act act).1) margin

@[simp] theorem afterActs_nil (margin : Margin) : margin.afterActs [] = margin := rfl

@[simp] theorem afterActs_cons (margin : Margin) (act : MarginAct) (acts : List MarginAct) :
    margin.afterActs (act :: acts) = (margin.act act).1.afterActs acts := rfl

@[simp] theorem afterActs_append (margin : Margin) (early late : List MarginAct) :
    margin.afterActs (early ++ late) = (margin.afterActs early).afterActs late := by
  simp [afterActs]

/-- What the listeners hear of some acts, in order. -/
def publishedBy (margin : Margin) : List MarginAct → List (Listener × List Annotation)
  | [] => []
  | act :: acts => (margin.act act).2.published ++ (margin.act act).1.publishedBy acts

@[simp] theorem publishedBy_nil (margin : Margin) : margin.publishedBy [] = [] := rfl

@[simp] theorem publishedBy_cons (margin : Margin) (act : MarginAct) (acts : List MarginAct) :
    margin.publishedBy (act :: acts) =
      (margin.act act).2.published ++ (margin.act act).1.publishedBy acts := rfl

theorem publishedBy_append (margin : Margin) (early late : List MarginAct) :
    margin.publishedBy (early ++ late) =
      margin.publishedBy early ++ (margin.afterActs early).publishedBy late := by
  induction early generalizing margin with
  | nil => rfl
  | cons act early ih => simp [ih]

/-- Whether a listener of a name is registered. -/
def HasListener (margin : Margin) (name : String) : Prop :=
  ∃ listener ∈ margin.listeners, listener.name = name

instance (margin : Margin) (name : String) : Decidable (margin.HasListener name) :=
  inferInstanceAs (Decidable (∃ listener ∈ margin.listeners, listener.name = name))

/-- What the listener of a name hears of some acts, in order. -/
def heard (margin : Margin) (name : String) (acts : List MarginAct) : List (List Annotation) :=
  ((margin.publishedBy acts).filter (·.1.name = name)).map (·.2)

/-! ## One act -/

/-- What every listener hears when some annotations are published. -/
def toAll (margin : Margin) (annotations : List Annotation) : List (Listener × List Annotation) :=
  margin.listeners.map fun listener => (listener, annotations)

/-- A margin that refuses no event applies all events. -/
theorem offer_of_whole {margin : Margin} (whole : margin.refused = none) (event : Event) :
    margin.offer event = margin.update event := by
  simp [offer, refuses, whole]

/-- Nobody hears of an event that is not classified as anything. -/
theorem published_update_of_none {event : Event} (nothing : event.classify.1 = none) (margin : Margin) :
    (margin.update event).2.published = [] := by
  rw [update]
  split
  · next classified logs answered =>
    rw [Event.classify_of_ok answered] at nothing
    cases nothing
  · rfl
  · rfl

/-- Every listener hears once, for each time it was added, of an event that is classified. -/
theorem published_update_of_some {event classified : Event} (something : event.classify.1 = some classified)
    (margin : Margin) :
    (margin.update event).2.published = margin.toAll (margin.update event).1.annotations := by
  obtain ⟨kind, short, detail, known, described, -⟩ := update_of_some something margin
  have classify : event.classify = (some classified, event.classify.2) := Prod.ext something rfl
  rw [update, Event.classify?_of_classify classify]
  simp only [applyClassified, known, described, publish, toAll]

/-- **What the listeners hear of an act.** Every listener hears what the margin shows after the act if
the act tells anything, and otherwise nobody hears anything. -/
theorem published_act {margin : Margin} (whole : margin.refused = none) (act : MarginAct) :
    (margin.act act).2.published =
      if act.tells then margin.toAll (margin.act act).1.annotations else [] := by
  cases act with
  | update event =>
    rw [Margin.act, offer_of_whole whole, MarginAct.tells]
    cases classify : event.classify.1 with
    | none => exact published_update_of_none classify margin
    | some classified => exact published_update_of_some classify margin
  | reset | listen | unlisten | turn => rfl

/-- Removing a listener changes the listeners alone. -/
theorem unlisten_eq (margin : Margin) (name : String) :
    margin.unlisten name = { margin with listeners := (margin.unlisten name).listeners } := by
  rw [unlisten]
  split <;> rfl

/-- An act of which nobody hears leaves the annotations as they are. -/
theorem annotations_act_of_silent {act : MarginAct} (silent : act.tells = false) (margin : Margin) :
    (margin.act act).1.annotations = margin.annotations := by
  cases act with
  | update event =>
    have nothing : event.classify.1 = none := by simpa [MarginAct.tells] using silent
    rw [Margin.act, offer]
    split
    · rfl
    · rw [update_of_none nothing]
  | unlisten name =>
    have same := congrArg Margin.annotations (margin.unlisten_eq name)
    exact same
  | listen | turn => rfl
  | reset => cases silent

/-- No act changes the limit of the short texts or what the margin refuses. -/
theorem act_keeps (margin : Margin) (act : MarginAct) :
    (margin.act act).1.limit = margin.limit ∧ (margin.act act).1.refused = margin.refused := by
  cases act with
  | update event =>
    rw [Margin.act, offer]
    split
    · exact ⟨rfl, rfl⟩
    · have limit := congrArg Margin.limit (margin.updateAll_eq [event])
      have refused := congrArg Margin.refused (margin.updateAll_eq [event])
      exact ⟨limit, refused⟩
  | unlisten name =>
    have limit := congrArg Margin.limit (margin.unlisten_eq name)
    have refused := congrArg Margin.refused (margin.unlisten_eq name)
    exact ⟨limit, refused⟩
  | reset | listen | turn => exact ⟨rfl, rfl⟩

/-- No acts change the limit of the short texts or what the margin refuses. -/
theorem afterActs_keeps (margin : Margin) (acts : List MarginAct) :
    (margin.afterActs acts).limit = margin.limit ∧ (margin.afterActs acts).refused = margin.refused := by
  induction acts generalizing margin with
  | nil => exact ⟨rfl, rfl⟩
  | cons act acts ih =>
    obtain ⟨limit, refused⟩ := margin.act_keeps act
    exact ⟨(ih _).1.trans limit, (ih _).2.trans refused⟩

end Margin

/-! ## Well-formed annotations -/

/-- A short text is one line of at most as many characters as the limit says. -/
def IsShort (limit : Int) (text : String) : Prop := (text.length : Int) ≤ limit ∧ '\n' ∉ text.toList

/-- A text that was shortened is short. -/
theorem isShort_shortened {limit : Int} (positive : 1 ≤ limit) (text : String) :
    IsShort limit (shortened limit text) := by
  obtain ⟨count, rfl⟩ := Int.eq_ofNat_of_zero_le (Int.le_trans (by decide) positive)
  have least : 1 ≤ count := by omega
  rw [IsShort, shortened, shorten_eq_cut least, String.length_ofList, String.toList_ofList]
  exact ⟨Int.ofNat_le.mpr (length_cut_le least _), not_mem_cut (not_mem_oneLine text.toList)⟩

/-- The short text that describes a payload is short. -/
theorem Payload.isShort_of_describe? {limit : Int} (positive : 1 ≤ limit) {payload : Payload}
    {short detail : String} (described : payload.describe? limit = some (short, detail)) :
    IsShort limit short := by
  cases payload with
  | raw text => cases described
  | expression | console | error =>
    obtain ⟨rfl, -⟩ := Prod.mk.inj (Option.some.inj described)
    exact isShort_shortened positive _

/-- Annotations as listeners expect them: by ascending line, with short texts. -/
structure WellFormed (limit : Int) (notes : List Annotation) : Prop where
  /-- At most one annotation for each line, by ascending line. -/
  ascending : Ascending notes
  /-- The short texts keep to the limit and are lines. -/
  short : ∀ note ∈ notes, IsShort limit note.short

namespace WellFormed

variable {limit : Int} {notes : List Annotation}

theorem nil (limit : Int) : WellFormed limit [] := ⟨.nil, fun _ member => nomatch member⟩

/-- Some of well-formed annotations, in their order, are well formed. -/
theorem sublist {others : List Annotation} (wellFormed : WellFormed limit notes)
    (fewer : others.Sublist notes) : WellFormed limit others :=
  ⟨wellFormed.ascending.sublist fewer, fun note member => wellFormed.short note (fewer.subset member)⟩

/-- An annotation with a short text may be put in its place. -/
theorem put (wellFormed : WellFormed limit notes) {note : Annotation} (short : IsShort limit note.short) :
    WellFormed limit (putNote note notes) := by
  refine ⟨wellFormed.ascending.put note, fun other member => ?_⟩
  rcases mem_of_mem_put member with rfl | old
  · exact short
  · exact wellFormed.short other old

end WellFormed

namespace Margin

/-- What a margin shows is well formed. -/
def IsWellFormed (margin : Margin) : Prop := WellFormed margin.limit margin.annotations

/-- The annotation that is put in place for a described event has a short text. -/
theorem isShort_annotate {margin : Margin} (positive : 1 ≤ margin.limit) (line : Nat) (kind : OutputKind)
    {short : String} (isShort : IsShort margin.limit short) (detail : String) :
    IsShort margin.limit (margin.annotate line kind short detail).short := by
  unfold annotate
  split
  · exact isShort_shortened positive _
  · exact isShort

/-- Every act keeps what the margin shows well formed. -/
theorem IsWellFormed.act {margin : Margin} (positive : 1 ≤ margin.limit) (wellFormed : margin.IsWellFormed)
    (act : MarginAct) : (margin.act act).1.IsWellFormed := by
  rw [IsWellFormed, (margin.act_keeps act).1]
  by_cases silent : act.tells = false
  · rw [annotations_act_of_silent silent]
    exact wellFormed
  · cases act with
    | update event =>
      rw [Margin.act, offer]
      split
      · exact wellFormed
      · cases classify : event.classify.1 with
        | none => simp [MarginAct.tells, classify] at silent
        | some classified =>
          obtain ⟨kind, short, detail, -, described, after⟩ := update_of_some classify margin
          rw [after]
          have isShort := Payload.isShort_of_describe? positive described
          exact wellFormed.put (isShort_annotate positive classified.line kind isShort detail)
    | reset => exact .nil margin.limit
    | listen | unlisten | turn => exact absurd rfl silent

/-- Acts keep what the margin shows well formed, and whatever listeners hear of them is. -/
theorem IsWellFormed.afterActs {margin : Margin} (positive : 1 ≤ margin.limit)
    (whole : margin.refused = none) (wellFormed : margin.IsWellFormed) (acts : List MarginAct) :
    (margin.afterActs acts).IsWellFormed ∧
      ∀ told ∈ margin.publishedBy acts, WellFormed margin.limit told.2 := by
  induction acts generalizing margin with
  | nil => exact ⟨wellFormed, fun told member => nomatch member⟩
  | cons act acts ih =>
    obtain ⟨limit, refused⟩ := margin.act_keeps act
    have next : (margin.act act).1.IsWellFormed := wellFormed.act positive act
    obtain ⟨after, later⟩ := ih (limit ▸ positive) (refused.trans whole) next
    refine ⟨after, fun told member => ?_⟩
    rcases List.mem_append.mp member with now | afterwards
    · rw [published_act whole] at now
      split at now
      · obtain ⟨listener, -, rfl⟩ := List.mem_map.mp now
        exact limit ▸ next
      · cases now
    · exact limit ▸ later told afterwards

/-! ## Listening all the time -/

/-- What is heard of one more act comes last. -/
theorem heard_concat (margin : Margin) (name : String) (acts : List MarginAct) (act : MarginAct) :
    margin.heard name (acts ++ [act]) =
      margin.heard name acts ++ (margin.afterActs acts).heard name [act] := by
  rw [heard, publishedBy_append, List.filter_append, List.map_append]
  rfl

/-- Whoever listens hears the annotations after an act that tells, and nothing else. -/
theorem heard_of_tells {margin : Margin} (whole : margin.refused = none) {name : String}
    (listens : margin.HasListener name) {act : MarginAct} (tells : act.tells = true) :
    margin.heard name [act] ≠ [] ∧
      ∀ annotations ∈ margin.heard name [act], annotations = (margin.act act).1.annotations := by
  have heard : margin.heard name [act] =
      ((margin.toAll (margin.act act).1.annotations).filter (·.1.name = name)).map (·.2) := by
    rw [Margin.heard, publishedBy_cons, publishedBy_nil, List.append_nil, published_act whole, if_pos tells]
  rw [heard]
  constructor
  · obtain ⟨listener, member, named⟩ := listens
    have told : (listener, (margin.act act).1.annotations) ∈
        (margin.toAll (margin.act act).1.annotations).filter (·.1.name = name) :=
      List.mem_filter.mpr ⟨List.mem_map_of_mem member, by simpa using named⟩
    exact List.ne_nil_of_mem (List.mem_map_of_mem told)
  · intro annotations member
    obtain ⟨told, found, rfl⟩ := List.mem_map.mp member
    obtain ⟨listener, -, rfl⟩ := List.mem_map.mp (List.mem_filter.mp found).1
    rfl

/-- Whoever listens all the time heard last what the margin shows, if anything was heard. -/
theorem heard_getLast? {margin : Margin} (whole : margin.refused = none) {name : String}
    (acts : List MarginAct) (listens : ∀ part, part <+: acts → (margin.afterActs part).HasListener name) :
    ∀ annotations ∈ (margin.heard name acts).getLast?, annotations = (margin.afterActs acts).annotations := by
  induction acts using List.reverseRecOn with
  | nil => exact fun annotations member => nomatch member
  | append_singleton acts act ih =>
    have before := ih fun part front => listens part (front.trans (List.prefix_append acts [act]))
    have still := listens acts (List.prefix_append acts [act])
    have wholeStill := (margin.afterActs_keeps acts).2.trans whole
    rw [heard_concat, afterActs_append]
    cases tells : act.tells with
    | true =>
      obtain ⟨some, same⟩ := heard_of_tells wholeStill still tells
      intro annotations last
      rw [List.getLast?_append_of_ne_nil _ some] at last
      exact same annotations (List.mem_of_getLast? last)
    | false =>
      have none : (margin.afterActs acts).heard name [act] = [] := by
        rw [heard, publishedBy_cons, published_act wholeStill, tells]
        rfl
      rw [none, List.append_nil]
      intro annotations last
      exact (before annotations last).trans (annotations_act_of_silent tells _).symm

end Margin

/-- What listeners may rely on while some acts happen to a margin. -/
structure KeepsListeners (margin : Margin) (acts : List MarginAct) : Prop where
  /-- Of a reset and of an event that is classified as something every listener hears once, for each
  time it was added, and it hears what the margin shows then; of nothing else anybody hears. -/
  told : ∀ act, ((margin.afterActs acts).act act).2.published =
    if act.tells then
      (margin.afterActs acts).listeners.map fun listener =>
        (listener, ((margin.afterActs acts).act act).1.annotations)
    else []
  /-- Whoever listens all the time heard last what the margin shows, if anything was heard. -/
  newest : ∀ name, (∀ part, part <+: acts → (margin.afterActs part).HasListener name) →
    ∀ annotations ∈ (margin.heard name acts).getLast?, annotations = (margin.afterActs acts).annotations
  /-- What the margin shows is well formed, with and without the line that is being edited. -/
  shown : WellFormed margin.limit (margin.afterActs acts).annotations ∧
    ∀ line, WellFormed margin.limit ((margin.afterActs acts).except line)
  /-- What anybody heard is well formed. -/
  heard : ∀ told ∈ margin.publishedBy acts, WellFormed margin.limit told.2

end Marginalia
