import Marginalia.Proofs.Margin.Shortening
import Mathlib.Data.List.DropRight

/-! # The margin line by line
What the margin shows for a line is decided by the classified events of that line, in their order
(`lineNote`): the last value or error by its description, or the texts printed since then, joined and
then shortened once. Events of other lines have no part in it, so the margin as a whole does not
depend on how the events of different lines are mixed (`margin_by_lines`). -/

namespace Marginalia

/-! ## Annotations by ascending line -/

/-- Annotations with at most one for each line, by ascending line. -/
def Ascending (notes : List Annotation) : Prop := notes.Pairwise (·.line < ·.line)

/-- Putting an annotation in its place keeps lines below a bound below it. -/
theorem lt_of_mem_put {note : Annotation} {notes : List Annotation} {bound : Nat}
    (below : bound < note.line) (others : ∀ other ∈ notes, bound < other.line) :
    ∀ other ∈ putNote note notes, bound < other.line := by
  fun_induction putNote note notes with
  | case1 => simpa using below
  | case2 first notes lower => exact List.forall_mem_cons.mpr ⟨below, others⟩
  | case3 first notes _ same =>
    exact List.forall_mem_cons.mpr ⟨below, (List.forall_mem_cons.mp others).2⟩
  | case4 first notes _ _ ih =>
    obtain ⟨belowFirst, belowOthers⟩ := List.forall_mem_cons.mp others
    exact List.forall_mem_cons.mpr ⟨belowFirst, ih belowOthers⟩

/-- What is there after an annotation was put in its place is that annotation or was there before. -/
theorem mem_of_mem_put {note other : Annotation} {notes : List Annotation}
    (member : other ∈ putNote note notes) : other = note ∨ other ∈ notes := by
  fun_induction putNote note notes with
  | case1 => exact .inl (List.mem_singleton.mp member)
  | case2 first notes lower => exact List.mem_cons.mp member
  | case3 first notes _ same =>
    exact (List.mem_cons.mp member).imp_right (List.mem_cons_of_mem first)
  | case4 first notes _ _ ih =>
    rcases List.mem_cons.mp member with rfl | later
    · exact .inr List.mem_cons_self
    · exact (ih later).imp_right (List.mem_cons_of_mem first)

/-- Putting an annotation in its place keeps the order of the lines. -/
theorem Ascending.put {notes : List Annotation} (ascending : Ascending notes)
    (note : Annotation) : Ascending (putNote note notes) := by
  induction notes with
  | nil => exact List.pairwise_singleton _ _
  | cons first notes ih =>
    obtain ⟨above, rest⟩ := List.pairwise_cons.mp ascending
    rw [Marginalia.putNote]
    split
    · next lower =>
      have aboveNote : ∀ other ∈ notes, note.line < other.line :=
        fun other member => Nat.lt_trans lower (above other member)
      exact List.pairwise_cons.mpr ⟨List.forall_mem_cons.mpr ⟨lower, aboveNote⟩, ascending⟩
    · split
      · next same => exact List.pairwise_cons.mpr ⟨same ▸ above, rest⟩
      · next notLower notSame =>
        have higher : first.line < note.line := by omega
        exact List.pairwise_cons.mpr ⟨lt_of_mem_put higher above, ih rest⟩

/-- An annotation that is put in its place is the one found for its line; those of other lines are
found as before. -/
theorem find?_put (note : Annotation) (notes : List Annotation) (line : Nat) :
    (putNote note notes).find? (·.line == line) =
      if note.line = line then some note else notes.find? (·.line == line) := by
  by_cases same : note.line = line
  · rw [if_pos same]
    fun_induction putNote note notes with
    | case1 | case2 | case3 => exact List.find?_cons_of_pos (by simpa using same)
    | case4 first notes _ notSame ih =>
      have other : first.line ≠ line := fun isLine => notSame (same.trans isLine.symm)
      rw [List.find?_cons_of_neg (by simpa using other), ih]
  · rw [if_neg same]
    fun_induction putNote note notes with
    | case1 | case2 => exact List.find?_cons_of_neg (by simpa using same)
    | case3 first notes _ atSame =>
      have other : first.line ≠ line := fun isLine => same (atSame.trans isLine)
      rw [List.find?_cons_of_neg (by simpa using same), List.find?_cons_of_neg (by simpa using other)]
    | case4 first notes _ _ ih => rw [List.find?_cons, List.find?_cons, ih]

/-- The annotations by ascending line are those found for their lines. -/
theorem Ascending.mem_iff {notes : List Annotation} (ascending : Ascending notes) (note : Annotation) :
    note ∈ notes ↔ notes.find? (·.line == note.line) = some note := by
  constructor
  · intro member
    induction notes with
    | nil => cases member
    | cons first notes ih =>
      obtain ⟨above, rest⟩ := List.pairwise_cons.mp ascending
      rcases List.mem_cons.mp member with rfl | later
      · exact List.find?_cons_of_pos (by simp)
      · have other : first.line ≠ note.line := Nat.ne_of_lt (above note later)
        rw [List.find?_cons_of_neg (by simpa using other), ih rest later]
  · exact List.mem_of_find?_eq_some

/-- Annotations by ascending line are determined by what is found for each line. -/
theorem Ascending.ext {left right : List Annotation} (first : Ascending left) (second : Ascending right)
    (same : ∀ line, left.find? (·.line == line) = right.find? (·.line == line)) : left = right := by
  have distinct {notes : List Annotation} (ascending : Ascending notes) : notes.Nodup :=
    List.Pairwise.imp (fun lower => ne_of_apply_ne Annotation.line (Nat.ne_of_lt lower)) ascending
  have members (note : Annotation) : note ∈ left ↔ note ∈ right := by
    rw [first.mem_iff, second.mem_iff, same]
  refine List.Perm.eq_of_pairwise ?_ first second
    ((List.perm_ext_iff_of_nodup (distinct first) (distinct second)).mpr members)
  intro note other _ _ lower higher
  exact absurd lower (Nat.lt_asymm higher)

/-! ## What a line shows -/

/-- The text of a payload that is printed by a call of the console. -/
def Payload.printed? : Payload → Option String
  | .console text => some text
  | _ => none

/-- The texts printed after the last event of another kind. -/
def trailingTexts (events : List Event) : List String :=
  (events.rtakeWhile (·.payload.printed?.isSome)).filterMap (·.payload.printed?)

@[simp] theorem trailingTexts_nil : trailingTexts [] = [] := by simp [trailingTexts]

/-- A printed text comes after those printed before. -/
theorem trailingTexts_concat_of_printed {event : Event} {text : String}
    (printed : event.payload.printed? = some text) (events : List Event) :
    trailingTexts (events ++ [event]) = trailingTexts events ++ [text] := by
  have kept : event.payload.printed?.isSome = true := by rw [printed, Option.isSome_some]
  rw [trailingTexts, List.rtakeWhile_concat, if_pos kept, List.filterMap_append, trailingTexts]
  simp [printed]

/-- An event of another kind starts anew. -/
theorem trailingTexts_concat_of_other {event : Event} (other : event.payload.printed? = none)
    (events : List Event) : trailingTexts (events ++ [event]) = [] := by
  have dropped : ¬ event.payload.printed?.isSome = true := by simp [other]
  rw [trailingTexts, List.rtakeWhile_concat, if_neg dropped, List.filterMap_nil]

/-- The annotation of a line after some classified events of that line. -/
def lineNote (limit : Int) (line : Nat) (events : List Event) : Option Annotation :=
  events.getLast?.bind fun last =>
    match last.payload with
    | .expression value =>
      some ⟨line, .expression, shortened limit value.text, firstNonempty value.detail value.text⟩
    | .error descriptor =>
      some ⟨line, .error, shortened limit descriptor.summary,
        firstNonempty descriptor.detail descriptor.summary⟩
    | .console _ =>
      some ⟨line, .terminal, shortened limit (", ".intercalate (trailingTexts events)),
        "\n".intercalate (trailingTexts events)⟩
    | .raw _ => none

@[simp] theorem lineNote_nil (limit : Int) (line : Nat) : lineNote limit line [] = none := rfl

/-- The classified events of a line among some events. -/
def eventsOn (events : List Event) (line : Nat) : List Event :=
  (events.filterMap (·.classify.1)).filter (·.line = line)

/-- An event that is not classified as anything belongs to no line. -/
theorem eventsOn_concat_of_none {event : Event} (nothing : event.classify.1 = none)
    (events : List Event) (line : Nat) : eventsOn (events ++ [event]) line = eventsOn events line := by
  simp [eventsOn, nothing]

/-- A classified event comes last on its own line. -/
theorem eventsOn_concat_of_some {event classified : Event} (something : event.classify.1 = some classified)
    (events : List Event) (line : Nat) :
    eventsOn (events ++ [event]) line =
      if classified.line = line then eventsOn events line ++ [classified] else eventsOn events line := by
  rw [eventsOn, List.filterMap_append, List.filter_append]
  by_cases same : classified.line = line
  · simp [eventsOn, something, same]
  · simp [eventsOn, something, same]

/-! ## One event -/

namespace Margin

/-- An event that is not classified as anything leaves the margin as it is. -/
theorem update_of_none {event : Event} (nothing : event.classify.1 = none) (margin : Margin) :
    (margin.update event).1 = margin := by
  rw [update]
  split
  · next classified logs answered =>
    rw [Event.classify_of_ok answered] at nothing
    cases nothing
  · rfl
  · rfl

/-- A classified event puts the annotation of its line in its place. -/
theorem update_of_some {event classified : Event} (something : event.classify.1 = some classified)
    (margin : Margin) :
    ∃ kind short detail, classified.payload.kind? = some kind ∧
      classified.payload.describe? margin.limit = some (short, detail) ∧
      (margin.update event).1 =
        { margin with
          annotations := putNote (margin.annotate classified.line kind short detail)
            margin.annotations } := by
  have classify : event.classify = (some classified, event.classify.2) := Prod.ext something rfl
  have isClassified := Event.isClassified_of_classify classify
  rw [update, Event.classify?_of_classify classify]
  cases payload : classified.payload with
  | raw text => simp [Event.isClassified, payload, Payload.kind?] at isClassified
  | expression | console | error =>
    exact ⟨_, _, _, rfl, rfl, by simp only [applyClassified, payload, Payload.kind?, Payload.describe?]⟩

/-- The annotation after an event is on the line of the event. -/
@[simp] theorem line_annotate (margin : Margin) (line : Nat) (kind : OutputKind) (short detail : String) :
    (margin.annotate line kind short detail).line = line := by
  unfold annotate
  split <;> rfl

/-- A value or an error takes the place of what was there. -/
theorem annotate_of_ne_terminal {kind : OutputKind} (other : kind ≠ .terminal) (margin : Margin)
    (line : Nat) (short detail : String) :
    margin.annotate line kind short detail = ⟨line, kind, short, detail⟩ := by
  cases kind with
  | terminal => exact absurd rfl other
  | expression | error => rfl

/-- A printed text stands alone where no text was printed before it. -/
theorem annotate_of_not_printed {margin : Margin} {line : Nat}
    (fresh : ∀ note, margin.get? line = some note → note.kind ≠ .terminal) (short detail : String) :
    margin.annotate line .terminal short detail = ⟨line, .terminal, short, detail⟩ := by
  unfold annotate
  split
  · next found => exact absurd rfl (fresh _ found)
  · rfl

/-- A printed text joins those printed before it. -/
theorem annotate_of_printed {margin : Margin} {line : Nat} {oldShort oldDetail : String}
    (found : margin.get? line = some ⟨line, .terminal, oldShort, oldDetail⟩) (short detail : String) :
    margin.annotate line .terminal short detail =
      ⟨line, .terminal, shortened margin.limit (oldShort ++ ", " ++ short),
        oldDetail ++ "\n" ++ detail⟩ := by
  unfold annotate
  simp only [found]

/-- One more classified event: if a line shows what the events before say, the annotation put in its
place is what all of them say. -/
theorem annotate_lineNote {margin : Margin} (positive : 1 ≤ margin.limit) {event : Event}
    {events : List Event} (shows : margin.get? event.line = lineNote margin.limit event.line events)
    {kind : OutputKind} {short detail : String} (known : event.payload.kind? = some kind)
    (described : event.payload.describe? margin.limit = some (short, detail)) :
    some (margin.annotate event.line kind short detail) =
      lineNote margin.limit event.line (events ++ [event]) := by
  rw [lineNote, List.getLast?_concat, Option.bind_some]
  cases payload : event.payload with
  | raw text => simp [payload, Payload.kind?] at known
  | expression value | error descriptor =>
    simp only [payload, Payload.kind?, Payload.describe?, Option.some.injEq, Prod.mk.injEq] at known described
    obtain ⟨rfl, rfl⟩ := described
    subst known
    rw [annotate_of_ne_terminal (by decide)]
  | console text =>
    simp only [payload, Payload.kind?, Payload.describe?, Option.some.injEq, Prod.mk.injEq] at known described
    obtain ⟨rfl, rfl⟩ := described
    subst known
    have texts : trailingTexts (events ++ [event]) = trailingTexts events ++ [text] :=
      trailingTexts_concat_of_printed (congrArg Payload.printed? payload) events
    simp only [texts]
    -- What was shown before is a printed text exactly when the last event before printed one.
    rcases List.eq_nil_or_concat events with rfl | ⟨front, last, rfl⟩
    · rw [annotate_of_not_printed (by simp [shows])]
      simp
    · rw [List.concat_eq_append] at *
      cases before : last.payload with
      | console old =>
        have printed : trailingTexts (front ++ [last]) = trailingTexts front ++ [old] :=
          trailingTexts_concat_of_printed (congrArg Payload.printed? before) front
        have some : trailingTexts (front ++ [last]) ≠ [] := by simp [printed]
        rw [lineNote, List.getLast?_concat, Option.bind_some] at shows
        simp only [before] at shows
        rw [annotate_of_printed shows, shortened_join positive,
          String.intercalate_append_of_ne_nil some (List.cons_ne_nil text []),
          String.intercalate_append_of_ne_nil some (List.cons_ne_nil text []),
          String.intercalate_singleton, String.intercalate_singleton]
      | expression value | error descriptor | raw old =>
        have none : trailingTexts (front ++ [last]) = [] :=
          trailingTexts_concat_of_other (congrArg Payload.printed? before) front
        rw [lineNote, List.getLast?_concat, Option.bind_some] at shows
        simp only [before] at shows
        rw [annotate_of_not_printed (by simp [shows]), none]
        simp

/-! ## All events -/

/-- The margin after some events, one after another. -/
def updateAll (margin : Margin) (events : List Event) : Margin :=
  events.foldl (fun margin event => (margin.update event).1) margin

@[simp] theorem updateAll_nil (margin : Margin) : margin.updateAll [] = margin := rfl

/-- One more event is applied to what the events before it left. -/
theorem updateAll_concat (margin : Margin) (events : List Event) (event : Event) :
    margin.updateAll (events ++ [event]) = ((margin.updateAll events).update event).1 := by
  rw [updateAll, List.foldl_append]
  rfl

/-- Events change the annotations alone. -/
theorem updateAll_eq (margin : Margin) (events : List Event) :
    margin.updateAll events = { margin with annotations := (margin.updateAll events).annotations } := by
  induction events using List.reverseRecOn with
  | nil => rfl
  | append_singleton events event ih =>
    rw [updateAll_concat]
    cases classify : event.classify.1 with
    | none => rw [update_of_none classify, ← ih]
    | some classified =>
      obtain ⟨kind, short, detail, -, -, after⟩ := update_of_some classify (margin.updateAll events)
      have same : (margin.updateAll events).limit = margin.limit ∧
          (margin.updateAll events).listeners = margin.listeners ∧
          (margin.updateAll events).refused = margin.refused := by
        rw [ih]
        exact ⟨rfl, rfl, rfl⟩
      rw [after, same.1, same.2.1, same.2.2]

/-- Events keep the annotations by ascending line. -/
theorem ascending_updateAll {margin : Margin} (ascending : Ascending margin.annotations)
    (events : List Event) : Ascending (margin.updateAll events).annotations := by
  induction events using List.reverseRecOn with
  | nil => exact ascending
  | append_singleton events event ih =>
    rw [updateAll_concat]
    cases classify : event.classify.1 with
    | none => rwa [update_of_none classify]
    | some classified =>
      obtain ⟨kind, short, detail, -, -, after⟩ := update_of_some classify (margin.updateAll events)
      rw [after]
      exact ih.put _

/-- After any events on an empty margin, each line shows what its own events say. -/
theorem get?_updateAll {margin : Margin} (positive : 1 ≤ margin.limit) (fresh : margin.annotations = [])
    (events : List Event) (line : Nat) :
    (margin.updateAll events).get? line = lineNote margin.limit line (eventsOn events line) := by
  induction events using List.reverseRecOn generalizing line with
  | nil => simp [get?, fresh, eventsOn]
  | append_singleton events event ih =>
    rw [updateAll_concat]
    cases classify : event.classify.1 with
    | none => rw [update_of_none classify, ih, eventsOn_concat_of_none classify]
    | some classified =>
      have limit : (margin.updateAll events).limit = margin.limit := by rw [updateAll_eq]
      obtain ⟨kind, short, detail, known, described, after⟩ :=
        update_of_some classify (margin.updateAll events)
      rw [after, get?, find?_put, line_annotate, eventsOn_concat_of_some classify]
      by_cases same : classified.line = line
      · subst same
        rw [if_pos rfl, if_pos rfl, ← limit]
        exact annotate_lineNote (limit ▸ positive) (limit ▸ ih classified.line) known described
      · rw [if_neg same, if_neg same]
        exact ih line

end Margin

/-- **The margin is a function of the events line by line.** After a reset and any events, each line
shows the description of the last value or error reported on it, or else the texts printed since then,
shortened once, with all of them in full; a line without events shows nothing. There is one annotation
for each such line, by ascending line, and other events that are the same on each line give the same
margin. -/
theorem margin_by_lines {margin : Margin} (positive : 1 ≤ margin.limit) (events : List Event) :
    let shown := margin.reset.1.updateAll events
    (∀ line, shown.get? line = lineNote margin.limit line (eventsOn events line)) ∧
      (shown.annotations.Pairwise (·.line < ·.line) ∧
        ∀ note, note ∈ shown.annotations ↔
          lineNote margin.limit note.line (eventsOn events note.line) = some note) ∧
      ∀ others, (∀ line, eventsOn others line = eventsOn events line) →
        margin.reset.1.updateAll others = shown := by
  intro shown
  have byLine := margin.reset.1.get?_updateAll positive rfl
  have ascending := margin.reset.1.ascending_updateAll List.Pairwise.nil
  refine ⟨byLine events, ⟨ascending events, fun note => ?_⟩, fun others same => ?_⟩
  · rw [(ascending events).mem_iff]
    exact iff_of_eq (congrArg (· = some note) (byLine events note.line))
  · have equal : (margin.reset.1.updateAll others).annotations = shown.annotations := by
      refine (ascending others).ext (ascending events) fun line => ?_
      have left := byLine others line
      have right := byLine events line
      rw [same line, ← right] at left
      exact left
    rw [Margin.updateAll_eq, equal, ← Margin.updateAll_eq]

/-- Three texts, one of them tagged in printed text, are cut once; they go round an error on another
line, and a value that comes last stands alone. Sorted by line, the events give the same margin. -/
theorem margin_by_lines_of_mixed_events :
    let margin : Margin := Margin.empty 9
    let text : Event := ⟨3, .console "a\r\nb", 0⟩
    let fault : Event := ⟨2, .error ⟨"TypeError", "no", ""⟩, 0⟩
    let early : Event := ⟨1, .console "x", 0⟩
    let tagged : Event := ⟨9, .raw "`\x7b3\x7d`ccc\n", 0⟩
    let value : Event := ⟨1, .expression ⟨"42", "", "number"⟩, 0⟩
    let prompt : Event := ⟨3, .raw "...", 0⟩
    let late : Event := ⟨3, .console "dd", 0⟩
    let shown := margin.reset.1.updateAll [text, fault, early, tagged, value, prompt, late]
    1 ≤ margin.limit ∧
      shown.get? 3 = some ⟨3, .terminal, "a b, ccc…", "a\r\nb\nccc\ndd"⟩ ∧
      shown.get? 2 = some ⟨2, .error, "TypeErro…", "TypeError: no"⟩ ∧
      shown.get? 1 = some ⟨1, .expression, "42", "42"⟩ ∧ shown.get? 4 = none ∧
      margin.reset.1.updateAll [early, value, fault, text, tagged, late] = shown := by
  intro margin text fault early tagged value prompt late shown
  have law := @margin_by_lines margin (by decide) [text, fault, early, tagged, value, prompt, late]
  refine ⟨by decide, ?_, ?_, ?_, ?_, law.2.2 _ fun line => ?_⟩
  · exact (law.1 3).trans (by decide +kernel)
  · exact (law.1 2).trans (by decide +kernel)
  · exact (law.1 1).trans (by decide +kernel)
  · exact (law.1 4).trans (by decide +kernel)
  · have untagged : tagged.classify.1 = some ⟨3, .console "ccc", 0⟩ := by decide +kernel
    have dropped : prompt.classify.1 = none := by decide +kernel
    have kept : ∀ event ∈ [text, fault, early, value, late], event.classify.1 = some event := by decide
    simp only [List.forall_mem_cons] at kept
    simp only [eventsOn, List.filterMap_cons, untagged, dropped, kept, List.filterMap_nil]
    by_cases third : 3 = line
    · subst third
      rfl
    · by_cases second : 2 = line
      · subst second
        rfl
      · by_cases first : 1 = line
        · subst first
          rfl
        · simp [text, fault, early, value, late, first, second, third]

end Marginalia
